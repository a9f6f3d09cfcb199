import Mathlib.Data.Nat.Digits.Defs
import OutboundWatch.Probe.Target

/-!
# Which addresses are accepted

The address of a plain connection is cut at its last colon. What stands before it is taken as it is, if there is
anything but empty brackets; what stands after it has to be a port number. So the accepted addresses are those of a
grammar, and every other text is refused and named in the refusal.
-/

namespace OutboundWatch

namespace Net

/-- The number that decimal digits stand for, the most significant digit first. -/
def decimalValue (digits : List Char) : Nat :=
  Nat.ofDigits 10 (digits.map fun c => c.toNat - '0'.toNat).reverse

/-- The digits of a port number, with any number of leading zeros. -/
structure PortDigits (digits : List Char) : Prop where
  some_digit : digits ≠ []
  all_digits : ∀ c ∈ digits, '0' ≤ c ∧ c ≤ '9'
  value_pos : 1 ≤ decimalValue digits
  value_le : decimalValue digits ≤ 65535

/-- A written port number: its digits, after a plus sign or without one. -/
def PortText (text : String) : Prop :=
  ∃ sign digits : String, text = sign ++ digits ∧ (sign = "" ∨ sign = "+") ∧ PortDigits digits.toList

/-- A written address: a host and a port number with a colon between them. The host may have colons itself. -/
def AddressText (text : String) : Prop :=
  ∃ host port : String, text = host ++ ":" ++ port ∧ ':' ∉ port.toList ∧ host ≠ "" ∧ host ≠ "[]" ∧ PortText port

lemma isDigit_iff (c : Char) : c.isDigit = true ↔ '0' ≤ c ∧ c ≤ '9' := by
  simp only [Char.isDigit, Bool.and_eq_true, decide_eq_true_eq]
  exact Iff.rfl

lemma foldl_eq_decimalValue (digits : List Char) :
    digits.foldl (fun n c => n * 10 + (c.toNat - '0'.toNat)) 0 = decimalValue digits := by
  rw [decimalValue, Nat.ofDigits_eq_foldr, List.foldr_reverse, List.foldl_map]
  congr 1
  funext n c
  simp only [Nat.cast_id]
  omega

/-- Digits are read as the number that they stand for, and nothing else is read. -/
theorem decimal?_eq_some_iff (digits : List Char) (n : Nat) :
    decimal? digits = some n ↔
      digits ≠ [] ∧ (∀ c ∈ digits, '0' ≤ c ∧ c ≤ '9') ∧ decimalValue digits = n := by
  have hall : digits.all Char.isDigit = true ↔ ∀ c ∈ digits, '0' ≤ c ∧ c ≤ '9' := by
    rw [List.all_eq_true]
    exact forall₂_congr fun c _ => isDigit_iff c
  unfold decimal?
  rw [foldl_eq_decimalValue]
  simp only [hall]
  by_cases hread : digits ≠ [] ∧ ∀ c ∈ digits, '0' ≤ c ∧ c ≤ '9'
  · rw [if_pos hread, Option.some_inj]
    tauto
  · rw [if_neg hread]
    tauto

lemma splitAtLastColon?_eq_none_iff (text : List Char) : splitAtLastColon? text = none ↔ ':' ∉ text := by
  induction text with
  | nil => simp [splitAtLastColon?]
  | cons c rest ih =>
    unfold splitAtLastColon?
    rw [List.mem_cons, not_or]
    cases hrest : splitAtLastColon? rest with
    | some parts =>
      have hcolon : ¬ (':' ∉ rest) := by rw [← ih, hrest]; simp
      simp [hcolon]
    | none =>
      have hcolon := ih.mp hrest
      simp [hcolon, eq_comm]

/-- A text is cut at its last colon, the one that none comes after. -/
theorem splitAtLastColon?_eq_some_iff (text host port : List Char) :
    splitAtLastColon? text = some (host, port) ↔ text = host ++ ':' :: port ∧ ':' ∉ port := by
  induction text generalizing host port with
  | nil => simp [splitAtLastColon?]
  | cons c rest ih =>
    unfold splitAtLastColon?
    cases hrest : splitAtLastColon? rest with
    | some parts =>
      obtain ⟨before, after⟩ := parts
      obtain ⟨hsplit, hlast⟩ := (ih before after).mp hrest
      constructor
      · intro h
        cases h
        exact ⟨congrArg (c :: ·) hsplit, hlast⟩
      · rintro ⟨htext, hport⟩
        cases host with
        | nil =>
          -- The colon would be the first character, but there is a later one.
          injection htext with _ htail
          rw [← htail, hsplit] at hport
          simp at hport
        | cons d host =>
          injection htext with hhead htail
          have hcut := (ih host port).mpr ⟨htail, hport⟩
          rw [hrest] at hcut
          cases hcut
          rw [hhead]
    | none =>
      have hnone := (splitAtLastColon?_eq_none_iff rest).mp hrest
      have hcut : c :: rest = host ++ ':' :: port ↔ c = ':' ∧ host = [] ∧ rest = port := by
        cases host with
        | nil => simp
        | cons d host =>
          have hother : rest ≠ host ++ ':' :: port := by
            rintro rfl
            simp at hnone
          simp [hother]
      rw [hcut]
      by_cases hc : c = ':'
      · simp only [hc, if_true, Option.some_inj, Prod.mk.injEq, true_and]
        constructor
        · rintro ⟨rfl, rfl⟩
          exact ⟨⟨rfl, rfl⟩, hnone⟩
        · rintro ⟨⟨rfl, rfl⟩, -⟩
          exact ⟨rfl, rfl⟩
      · simp [hc]

lemma readsPort_iff (digits : List Char) :
    ((decimal? digits).filter fun port => 1 ≤ port ∧ port ≤ 65535).isSome = true ↔ PortDigits digits := by
  rw [Option.isSome_iff_exists]
  constructor
  · rintro ⟨port, hport⟩
    obtain ⟨hread, hrange⟩ := Option.filter_eq_some_iff.mp hport
    obtain ⟨hsome, hall, rfl⟩ := (decimal?_eq_some_iff digits port).mp hread
    obtain ⟨hpos, hle⟩ := of_decide_eq_true hrange
    exact ⟨hsome, hall, hpos, hle⟩
  · intro h
    have hread := (decimal?_eq_some_iff digits _).mpr ⟨h.some_digit, h.all_digits, rfl⟩
    exact ⟨_, Option.filter_eq_some_iff.mpr ⟨hread, decide_eq_true ⟨h.value_pos, h.value_le⟩⟩⟩

/-- One plus sign may come before the digits of a port number. -/
theorem isPort_iff (text : String) : isPort text.toList = true ↔ PortText text := by
  unfold isPort
  rw [readsPort_iff]
  split
  · rename_i rest htext
    constructor
    · intro h
      refine ⟨"+", String.ofList rest, ?_, .inr rfl, ?_⟩
      · apply String.ext
        rw [htext, String.toList_append, String.toList_ofList (l := rest)]
        rfl
      · rwa [String.toList_ofList]
    · rintro ⟨sign, digits, rfl, rfl | rfl, h⟩
      · -- The plus sign would have to be a digit.
        rw [String.empty_append] at htext
        have hdigit := h.all_digits '+' (by rw [htext]; exact List.mem_cons_self)
        exact absurd hdigit (by decide)
      · rw [String.toList_append] at htext
        injection htext with _ hrest
        rwa [← hrest]
  · rename_i hplain
    constructor
    · intro h
      exact ⟨"", text, String.empty_append.symm, .inl rfl, h⟩
    · rintro ⟨sign, digits, rfl, rfl | rfl, h⟩
      · rwa [String.empty_append]
      · rw [String.toList_append] at hplain
        exact absurd rfl (hplain digits.toList)

/-- The addresses that can be used are the well-formed ones. -/
theorem isHostPort_iff (text : String) : isHostPort text = true ↔ AddressText text := by
  have hhost (host : String) : (host.toList ≠ [] && host.toList ≠ ['[', ']']) = true ↔ host ≠ "" ∧ host ≠ "[]" := by
    have hbrackets : host.toList = ['[', ']'] ↔ host = "[]" := @String.toList_inj host "[]"
    simp [hbrackets]
  have hcut (host port : String) : splitAtLastColon? text.toList = some (host.toList, port.toList) ↔
      text = host ++ ":" ++ port ∧ ':' ∉ port.toList := by
    have hjoin : text.toList = host.toList ++ ':' :: port.toList ↔ text = host ++ ":" ++ port := by
      rw [← String.toList_inj, String.toList_append, String.toList_append, List.append_assoc]
      rfl
    rw [splitAtLastColon?_eq_some_iff, hjoin]
  unfold isHostPort
  constructor
  · intro h
    split at h
    · cases h
    · rename_i before after hsplit
      rw [← String.toList_ofList (l := before), ← String.toList_ofList (l := after)] at hsplit h
      obtain ⟨htext, hcolon⟩ := (hcut _ _).mp hsplit
      rw [Bool.and_eq_true, hhost, isPort_iff] at h
      exact ⟨_, _, htext, hcolon, h.1.1, h.1.2, h.2⟩
  · rintro ⟨host, port, htext, hcolon, hsome, hbrackets, hport⟩
    rw [(hcut host port).mpr ⟨htext, hcolon⟩, Bool.and_eq_true, hhost, isPort_iff]
    exact ⟨⟨hsome, hbrackets⟩, hport⟩

end Net

namespace TargetConfig

lemma build_tcp (address : String) : (tcp address).build = (tcp address).check.map fun _ => .tcp address := by
  unfold build check
  cases checkAddress address <;> rfl

/-- A plain target is accepted, and can be built, exactly if its address is well-formed. Every other one is refused, and
the refusal names the whole address. -/
theorem address_accepted (address : String) :
    (Net.AddressText address ∧ (tcp address).check = .ok () ∧ (tcp address).build = .ok (.tcp address)) ∨
      (¬Net.AddressText address ∧ (tcp address).check = .error (.invalidAddress address) ∧
        (tcp address).build = .error (.invalidAddress address)) := by
  rw [build_tcp, ← Net.isHostPort_iff]
  by_cases hread : Net.isHostPort address = true
  · have hcheck : (tcp address).check = .ok () := if_pos hread
    left
    rw [hcheck]
    exact ⟨hread, rfl, rfl⟩
  · have hcheck : (tcp address).check = .error (.invalidAddress address) := if_neg hread
    right
    rw [hcheck]
    exact ⟨hread, rfl, rfl⟩

/-- All colons but the last belong to the host, and zeros before the digits of the port do not matter. -/
example : (tcp "[::1]:+000001080").check = .ok () := by decide +kernel

end TargetConfig

end OutboundWatch
