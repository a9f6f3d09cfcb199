import OutboundWatch.Net.Punycode
import OutboundWatch.Unicode.Bidi
import OutboundWatch.Unicode.Composition
import OutboundWatch.Unicode.HostMapping

/-!
# Domain names

Internationalized domain names are brought into their ASCII form: the characters are mapped and
composed, every label is checked, and labels beyond ASCII are written in Punycode. Empty labels,
hyphens in any place and labels of any length are allowed.
-/

namespace OutboundWatch.Net.DomainName

open Unicode

/-- ASCII characters that no domain name of a URL contains. -/
def isDenied (c : Char) : Bool :=
  c.toNat ≤ 0x20 || c.toNat == 0x7f ||
    ['%', '#', '/', ':', '<', '>', '?', '@', '[', '\\', ']', '^', '|'].contains c

def isAscii (cs : List Char) : Bool := cs.all (·.toNat < 0x80)

def encodedSign : List Char := ['x', 'n', '-', '-']

/-- A label in Punycode decodes to a label that is not ASCII and that mapping leaves alone. -/
def decodeLabel (label : List Char) : Option (List Char) :=
  if encodedSign.isPrefixOf label then do
    let text ← Punycode.decode? (label.drop encodedSign.length)
    guard (¬ isAscii text)
    guard (text.all isMapped && normalizeC text == text)
    return text
  else some label

/-- Whether a non-joiner stands between letters that would join across it. -/
def joinsAcross (before after : List Char) : Bool :=
  let firstOther (cs : List Char) := (cs.dropWhile (joiningType · = .transparent)).head?.map joiningType
  (firstOther before = some .leftJoining || firstOther before = some .dualJoining) &&
    (firstOther after = some .rightJoining || firstOther after = some .dualJoining)

/-- The combining class of the signs that silence a vowel. -/
def viramaClass : Nat := 9

/-- Joiners stand behind a virama, non-joiners there or where letters join across them. `before` is the
text before the rest, in reverse. -/
def joinersAllowed (before : List Char) : List Char → Bool
  | [] => true
  | c :: rest =>
    let afterVirama := (before.head?.map combiningClass) = some viramaClass
    (if c = '\u200d' then decide afterVirama
      else if c = '\u200c' then decide afterVirama || joinsAcross before rest
      else true) && joinersAllowed (c :: before) rest

/-- Whether a class makes a name one that is written from right to left. -/
def isRightward (cls : BidiClass) : Bool :=
  cls = .rightToLeft || cls = .arabicLetter || cls = .arabicNumber

/-- The classes that may stand in a label of either direction. -/
def isNeutral (cls : BidiClass) : Bool :=
  [.europeanNumber, .europeanSeparator, .commonSeparator, .europeanTerminator, .otherNeutral,
    .boundaryNeutral, .nonspacingMark].contains cls

/-- The rule for labels of a name in which something is written from right to left: a label begins with
a letter, keeps to its direction, ends in a letter or number of it apart from marks, and does not mix
the two kinds of numbers. -/
def followsBidiRule (label : List Char) : Bool :=
  let classes := label.map bidiClass
  let last? := (classes.reverse.dropWhile (· = .nonspacingMark)).head?
  match classes.head? with
  | none => true
  | some .leftToRight =>
    (classes.all fun cls => cls = .leftToRight || isNeutral cls) &&
      (last? = some .leftToRight || last? = some .europeanNumber)
  | some first =>
    (first = .rightToLeft || first = .arabicLetter) &&
      (classes.all fun cls => isRightward cls || isNeutral cls) &&
      (last?.any fun cls => isRightward cls || cls = .europeanNumber) &&
      !(classes.contains .europeanNumber && classes.contains .arabicNumber)

/-- Whether a label beyond ASCII is well formed by itself. -/
def isLabel (label : List Char) : Bool :=
  isAscii label ||
    (!(label.head?.any marks.contains) && label.all isMapped && joinersAllowed [] label)

def encodeLabel (label : List Char) : List Char :=
  if isAscii label then label else encodedSign ++ Punycode.encode label

/-- The ASCII form of a domain name, if it is one. -/
def toAscii? (name : List Char) : Option (List Char) := do
  let mapped := (← name.mapM mapHostChar).flatten
  let labels ← ((normalizeC mapped).splitOn '.').mapM decodeLabel
  guard (labels.all fun label => label.all fun c => !isDenied c)
  guard (labels.all isLabel)
  guard (!(labels.any fun label => label.any fun c => isRightward (bidiClass c)) ||
    labels.all followsBidiRule)
  return ['.'].intercalate (labels.map encodeLabel)

end OutboundWatch.Net.DomainName
