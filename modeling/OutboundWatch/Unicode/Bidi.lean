import OutboundWatch.Unicode.RunTable

/-!
# Directions and joining

The bidirectional classes and the joining types of the Unicode character database, as far as the
rules for domain names ask for them, and the set of combining marks.
-/

namespace OutboundWatch.Unicode

inductive BidiClass where
  | leftToRight
  | rightToLeft
  | arabicLetter
  | arabicNumber
  | europeanNumber
  | europeanSeparator
  | commonSeparator
  | europeanTerminator
  | otherNeutral
  | boundaryNeutral
  | nonspacingMark
  | other
  deriving DecidableEq

def BidiClass.ofCode : Nat → BidiClass
  | 0 => leftToRight
  | 1 => rightToLeft
  | 2 => arabicLetter
  | 3 => arabicNumber
  | 4 => europeanNumber
  | 5 => europeanSeparator
  | 6 => commonSeparator
  | 7 => europeanTerminator
  | 8 => otherNeutral
  | 9 => boundaryNeutral
  | 10 => nonspacingMark
  | _ => other

/-- Classes of all characters that are not written from left to right. -/
def bidiClasses : RunTable BidiClass :=
  RunTable.read (fun value => BidiClass.ofCode (base36 value)) "
  0+9=9 0+5=b 0+e=9 0+5=b 0+2=8 0+3=7 0+5=8 0=5 0=6 0=5 0+2=6 0+a=4 0=6 0+6=8 q+6=8 q+4=8 0+6=9
  0=b 0+q=9 0=6 0=8 0+4=7 0+4=8 1+2=8 0=9 0+2=8 0+2=7 0+2=4 0=8 1+3=8 0=4 1+5=8 n=8 v=8 ch+2=8
  7+e=8 2+e=8 5+9=8 1+h=8 0+34=a 4+2=8 8=8 5+2=8 1=8 32=8 3w+7=a 74=8 2+2=8 0=7 1+19=a 0=1 0=a 0=1
  0+2=a 0=1 0+2=a 0=1 0=a 8+r=1 4+6=1 b+6=3 0+2=8 0=2 0+2=7 0=2 0=6 0=2 0+2=8 0+b=a 0+1c=2 0+l=a
  0+a=3 0=7 0+2=3 0+3=2 0=a 0+2t=2 0+7=a 0=3 0=8 0+6=a 0+2=2 0+2=a 0=8 0+4=a 0+2=2 0+a=4 0+k=2
  1+2=2 0=a 0+u=2 0+r=a 2+2h=2 0+b=a 0=2 e+17=1 0+9=a 0+2=1 0+4=8 0=1 2=a 0+o=1 0+4=a 0=1 0+9=a
  0=1 0+3=a 0=1 0+5=a 2+f=1 1+p=1 0+3=a 2=1 1+b=2 5+v=2 1+2=3 6+8=a 0+16=2 0+o=a 0=3 0+w=a 1j=a
  1=a 4+8=a 4=a 3+7=a a+2=a t=a 1m=a 4+4=a 8=a k+2=a e+2=7 7=7 2=a 2+2=a 1l=a 4+2=a 4+2=a 2+3=a
  3=a u+2=a 3=a b+2=a 1l=a 4+5=a 1+2=a 4=a k+2=a d=7 8+6=a 1=a 1m=a 2=a 1+4=a 8=a 7+2=a b+2=a u=a
  1p=a c=a 11+6=8 0=7 0=8 5=a 3=a 1j=a 1+3=a 5+3=a 1+4=a 7+2=a b+2=a k+7=8 2=a 1m=a f+2=a k+2=a
  s+2=a 1l+2=a 4+4=a 8=a k+2=a t=a 20=a 7+3=a 1=a 2i=a 2+7=a 4=7 7+8=a 2q=a 2+9=a b+7=a 21+2=a r=a
  1=a 1=a 0+4=8 1f+e=a 1+5=a 1+2=a 5+b=a 1+10=a 9=a 2u+4=a 1+6=a 1+2=a 2+2=a p+2=a 4+3=a g+4=a d=a
  2+2=a 6=a f=a jj+3=a 1c+a=8 2u=8 hr=b q+2=8 39+3=a t+2=a u+2=a u+2=a 1s+2=a 1+7=a 8=a 2+b=a 7=7
  1=a i+a=8 6+b=8 0+3=a 0=9 0=a 39+2=a y=a 3a+3=a 4+2=a 9=a 6+3=a 4=8 3+2=8 48+y=8 n+2=a 2=a 1m=a
  1+7=a 1=a 1=a 2+8=a 6+a=a 2=a 1c+v=a 1d+4=a 1c=a 1+5=a 1=a 5=a 14+9=a c+2=a w+4=a 2+2=a 1+3=a
  1k=a 1+2=a 3=a 1+3=a 1m+8=a 2+2=a 48+3=a 1+d=a 1+7=a 4=a 6=a 3+2=a 5i+1s=a cd=8 1+3=8 b+3=8
  d+3=8 d+3=8 d+2=8 1+b=b 0+3=9 1=1 0+o=8 0+7=b 0=6 0+5=7 0+f=8 0=6 0+q=8 0=b 0+5=9 1+4=b 0+6=9
  0=4 3+6=4 0+2=5 0+3=8 1+a=4 0+2=5 0+3=8 h+x=7 f+x=a f+2=8 1+4=8 1+2=8 a=8 1+3=8 5+6=8 1=8 1=8
  1=8 4=7 b+2=8 4+5=8 5+4=8 2+g=8 15+3=8 4+3m=8 0=5 0=7 0+82=8 1x+q=8 1+41=8 p+b=8 l+14=8 0+k=4
  26+ci=8 1+9f=8 74+hg=8 2+w=8 1+2x=8 6d+6=8 4+3=a 7+7=8 3j=a 2o+w=a 0+2m=8 y+q=8 1+2h=8 c+5y=8
  q+c=8 4=b 0+4=8 3+p=8 9+4=a 2=8 5+2=8 5+3=8 2h+2=a 0+2=8 3=8 2i=8 5g+10=8 1l+2=8 1d+g=8 s+3=8
  1e+f=8 c+4=8 4n+4=8 2r+2=8 v=8 534+1s=8 h3k+1j=8 92+3=8 2n+4=a 0=8 0+a=a 0+2=8 u+2=a 28+2=a
  e+y=8 2u=8 3d=a 3=a 4=a p+2=a 1+4=8 0=a b+2=7 1m+4=8 24+2=a q+i=a d=a 12+8=a p+b=a 1a+3=a 1c=a
  2+4=a 2+2=a 13=a 1v+6=a 2+2=a 2+2=a c=a 8=a 1b=a 1f=a 1+3=a 2+2=a 5+2=a 1=a 16+2=a 8=a 37+2=8
  3d=a 2=a 4=a fn3=1 0=a 0+a=1 0=5 0+d=1 1+5=1 1=1 1+2=1 1+2=1 1+a=1 0+37=2 g+a3=2 0+i=8 0+1s=2
  2+1i=2 7=8 w+d=2 0+3=8 0+g=a 0+a=8 6+g=a 0+w=8 0=6 0=8 0=6 1=8 0=6 0+9=8 0=7 0+2=8 0+2=5 0+3=8
  1=8 0+2=7 0=8 4+5=2 1+3r=2 2=9 1+2=8 0+3=7 0+5=8 0=5 0=6 0=5 0+2=6 0+a=4 0=6 0+6=8 q+6=8 q+b=8
  3e+2=7 0+3=8 0+2=7 1+7=8 a+5=8 77=8 1q+25=8 3+d=8 3=8 2k=a 6a=a 0+r=4 3e+5=a w5+6=1 2=1 1+18=1
  1+2=1 3=1 2+n=1 1+20=1 8+9=1 1c+j=1 1+2=1 5+x=1 3=8 0+q=1 5=1 1s+1k=1 4+k=1 2+1b=1 0+3=a 1+2=a
  5+4=a 0+4=1 1+3=1 1+t=1 2+3=a 4=a 0+9=1 7+9=1 7+1s=1 w+11=1 0+2=a 4+c=1 9+1i=1 3+7=8 0+m=1 2+r=1
  5+q=1 7+4=1 c+7=1 28+21=1 1j+1f=1 d+1f=1 7+6=1 0+10=2 0+4=a 8+a=3 86+v=3 1+16=1 1+2=a 0=1 2+2=1
  23+3=a 0+14=1 8+m=2 0+b=a 0+9=2 m+i=1 0+4=a 0+4=1 12+s=1 k+n=1 a=a 1i+f=a b+k=8 a=a 2+2=a a+3=a
  1d+4=a 2+2=a 7=a 1p+3=a 10+5=a 1+8=a 1q=a c+2=a 1g+9=a a+4=a 2=a 2n+3=a 2=a 1+2=a 6=a 2=a 4d=a
  3+8=a l+2=a 1l+2=a 3=a 11+7=a 3+5=a 5f+8=a 2+3=a 1=a n=a 2c+6=a 1=a 4+2=a 1+2=a 6m+4=a 6+2=a
  1+2=a r+2=a 2d+8=a 2=a 1+2=a v+d=8 1q=a 1=a 2+6=a 1=a 2t+3=a 2+4=a 1+5=a 77+9=a 1+2=a 74+2=a 1=a
  4=a 40+4=a 2+2=a 4=a w+6=a 2+2=a 14+6=a 2+4=a 8=a 9+6=a 2+3=a 1a+d=a 1+2=a ba+7=a 1+6=a 2c+m=a
  2+7=a 1+2=a 1+2=a 3e+6=a 3=a 1+2=a 1+7=a 1=a 20+2=a 3=a 1=a 9n+2=a b+2=a 1g+5=a 5=a 1=a 42+8=8
  0+4=7 0+h=8 40e=a 6+f=a asa+5=a 1n+7=a t4=a 1r+4=a 27=8 1=a f5k+2=a 1+4=9 3mk+1a=a 2+n=a f4+3=a
  9+8=9 0+8=a 2+7=a u+4=a 1n+2=8 l+1u=8 0+3=a 0=8 56+2f=8 p0=8 1l=8 1l=8 1l=8 1l=8 a+1e=4 e8+1j=a
  4+1e=a 8=a e=a m+5=a 1+f=a 11s+7=a 1+h=a 2+7=a 1+2=a 1+5=a 2s=a 4g+7=a af=a 1p+4=a f=7 do+4=a
  ls+5h=1 2+9=1 0+7=a 15+1w=1 0+7=a 0=1 4+a=1 4+2=1 lt+1w=2 24+1p=2 5e+4=2 1+r=2 1+2=2 1=2 2=2
  1+a=2 1+4=2 1=2 1=2 6=2 4=2 1=2 1=2 1+3=2 1+2=2 1=2 2=2 1=2 1=2 1=2 1=2 1+2=2 1=2 2+4=2 1+7=2
  1+4=2 1+4=2 1=2 1+a=2 1+h=2 5+3=2 1+5=2 1+h=2 1g+2=8 7i+18=8 4+2s=8 c+f=8 2+f=8 1+f=8 1+11=8
  a+b=4 0+5=8 v=8 1m+6=8 1p=8 4y+6=8 4a+rc=8 4+h=8 3+d=8 3+3b=8 4+2n=8 6+c=8 4=8 f+c=8 4+1k=8
  8+a=8 6+14=8 8+u=8 2+2=8 26+9g=8 c+e=8 2+d=8 3+9=8 7+1a=8 1+7=8 8+e=8 4+9=8 7+9=8 7+43=8 1+1j=8
  11+a=4 gvlz=9 u+2o=9 3k+6o=a"

def bidiClass (c : Char) : BidiClass := (bidiClasses.find? c).getD .leftToRight

inductive JoiningType where
  | leftJoining
  | rightJoining
  | dualJoining
  | transparent
  | nonJoining
  deriving DecidableEq

def JoiningType.ofCode : Nat → JoiningType
  | 1 => leftJoining
  | 2 => rightJoining
  | 3 => dualJoining
  | 4 => transparent
  | _ => nonJoining

def joiningTypes : RunTable JoiningType :=
  RunTable.read (fun value => JoiningType.ofCode (base36 value)) "
  4t=4 gi+34=4 7n+7=4 7b+19=4 1=4 1+2=4 1+2=4 1=4 20+b=4 1=4 3=3 1+4=2 0=3 0=2 0=3 0=2 0+5=3 0+4=2
  0+d=3 1+7=3 0=2 0+2=3 0+l=4 e+2=3 0=4 0+3=2 1+3=2 0+g=3 0+i=2 0+12=3 0=2 0+2=3 0+9=2 0=3 0=2 0=3
  0=2 0+2=3 0+2=2 1=2 0+7=4 2+6=4 2+2=4 1+4=4 0+2=2 a+3=3 2=3 f=4 0=2 0=4 0+3=3 0+5=2 0+4=3 0=2
  0+9=3 0=2 0=3 0=2 0=3 0=2 0+2=3 0=2 0+r=4 2=2 0+b=3 0+3=2 0+f=3 0+2=2 0+4=3 0=2 0=3 0+2=2 0+3=3
  0+2=2 0+6=3 12+b=4 p+x=3 0+9=4 9=4 o+4=4 1+9=4 1+3=4 1+5=4 i=2 0+5=3 0+2=2 0=3 0=2 0+a=3 0=2 0=3
  0+3=2 0+3=4 4=3 1+4=3 1=2 0=3 0+2=2 5+j=2 3=3 2+5=3 0=2 9+8=4 0+a=3 0+3=2 1=2 0+2=3 0+2=2 0+6=3
  0=2 0+f=3 1+o=4 1+w=4 1j=4 1=4 4+8=4 4=4 3+7=4 a+2=4 t=4 1m=4 4+4=4 8=4 k+2=4 q=4 2+2=4 1l=4
  4+2=4 4+2=4 2+3=4 3=4 u+2=4 3=4 b+2=4 1l=4 4+5=4 1+2=4 4=4 k+2=4 m+6=4 1=4 1m=4 2=4 1+4=4 8=4
  7+2=4 b+2=4 u=4 1p=4 c=4 1e=4 3=4 1j=4 1+3=4 5+3=4 1+4=4 7+2=4 b+2=4 t=4 1m=4 2=4 6=4 5+2=4
  k+2=4 s+2=4 1l+2=4 4+4=4 8=4 k+2=4 t=4 20=4 7+3=4 1=4 2i=4 2+7=4 c+8=4 2q=4 2+9=4 b+7=4 21+2=4
  r=4 1=4 1=4 1j+e=4 1+5=4 1+2=4 5+b=4 1+10=4 9=4 2u+4=4 1+6=4 1+2=4 2+2=4 p+2=4 4+3=4 g+4=4 d=4
  2+2=4 6=4 f=4 jj+3=4 qa+3=4 t+2=4 u+2=4 u+2=4 1s+2=4 1+7=4 8=4 2+b=4 9=4 15=3 3+3=4 1=4 g+2h=3
  c+2=4 0+y=3 0=4 0=3 39+3=4 4+2=4 9=4 6+3=4 63+2=4 2=4 1m=4 1+7=4 1=4 1=4 2+8=4 6+a=4 2=4 1c+v=4
  1d+4=4 1c=4 1+5=4 1=4 5=4 14+9=4 c+2=4 w+4=4 2+2=4 1+3=4 1k=4 1+2=4 3=4 1+3=4 1m+8=4 2+2=4
  48+3=4 1+d=4 1+7=4 4=4 6=4 3+2=4 5i+1s=4 ej=4 2+2=4 q+5=4 1d+5=4 5+6=4 2o+x=4 2da+3=4 3x=4
  2o+w=4 fe+4=4 2z+2=4 n9w+4=4 1+a=4 w+2=4 28+2=4 7k=4 3=4 4=4 p+2=4 5=4 j+1e=3 0=1 29+2=4 q+i=4
  d=4 12+8=4 p+b=4 1a+3=4 1c=4 2+4=4 2+2=4 13=4 1v+6=4 2+2=4 2+2=4 c=4 8=4 1b=4 1f=4 1+3=4 2+2=4
  5+2=4 1=4 16+2=4 8=4 6m=4 2=4 4=4 fn4=4 kh+g=4 g+g=4 5r=4 6x+3=4 e9=4 6a=4 45+5=4 1ae+3=4 1+2=4
  5+4=4 14+3=4 4=4 3k+5=3 0=2 1=2 1+2=2 2=1 0+5=2 0+4=3 0=1 0+5=3 0=2 0+3=3 0=2 2=2 0+2=4 4+4=3
  0=2 40=3 0=2 0=3 0+3=2 0+3=3 0=2 0+2=3 0=2 0=3 0+2=2 0=3 0=2 n+4=2 0+2=3 9d=1 0+x=3 0=2 0=3
  0+4=4 ar+2=4 28+3=4 1c+3=3 0=2 0+h=3 1+b=4 0+3=3 0=2 r+4=3 0+2=2 0+c=3 0+4=4 16=3 1+2=3 0+3=2
  1=3 0+2=2 0+2=3 0=2 0+2=3 1=3 0+2=2 0=3 4=2 0=3 0=1 1h=4 1i+f=4 15=4 2+2=4 a+3=4 1d+4=4 2+2=4
  7=4 1p+3=4 10+5=4 1+8=4 1q=4 c+2=4 1g+9=4 a+4=4 2=4 2n+3=4 2=4 1+2=4 6=4 2=4 4d=4 3+8=4 l+2=4
  1l+2=4 3=4 11+7=4 3+5=4 5f+8=4 2+3=4 1=4 n=4 2c+6=4 1=4 4+2=4 1+2=4 6m+4=4 6+2=4 1+2=4 r+2=4
  2d+8=4 2=4 1+2=4 2y=4 1=4 2+6=4 1=4 2t+3=4 2+4=4 1+5=4 77+9=4 1+2=4 74+2=4 1=4 4=4 40+4=4 2+2=4
  4=4 w+a=4 14+6=4 2+4=4 8=4 9+6=4 2+3=4 1a+d=4 1+2=4 ba+7=4 1+6=4 1=4 2a+m=4 2+7=4 1+2=4 1+2=4
  3e+6=4 3=4 1+2=4 1+7=4 1=4 20+2=4 3=4 1=4 9n+2=4 b+2=4 1g+5=4 5=4 1=4 44t+h=4 6+f=4 asa+5=4
  1n+7=4 t4=4 1r+4=4 29=4 f5k+2=4 1+4=4 3mk+1a=4 2+n=4 f4+3=4 9+g=4 2+7=4 u+4=4 44+3=4 1iz+1j=4
  4+1e=4 8=4 e=4 m+5=4 1+f=4 11s+7=4 1+h=4 2+7=4 1+2=4 1+5=4 2s=4 4g+7=4 af=4 1p+4=4 e4+4=4 rk+7=4
  15+1w=3 0+8=4 gzat=4 u+2o=4 3k+6o=4"

def joiningType (c : Char) : JoiningType := (joiningTypes.find? c).getD .nonJoining

def marks : CodeSet := RunTable.readSet "
  lc+34 7n+7 7b+19 1 1+2 1+2 1 20+b 1c+l g 2t+7 2+6 2+2 1+4 z u+r 2j+b 1m+9 9 o+4 1+9 1+3 1+5 17+3
  1n+9 16+o 1+x 1i+3 1+i 1+7 a+2 t+3 1k 1+7 2+2 2+3 9 a+2 q 2+3 1k 1+5 4+2 2+3 3 u+2 3 b+3 1k 1+8
  1+3 1+3 k+2 m+6 1+3 1k 1+7 2+2 2+3 7+3 a+2 u 1n+5 3+3 1+4 9 14+5 1j 1+7 1+3 1+4 7+2 b+2 t+3 1k
  1+7 1+3 1+4 7+2 b+2 f c+4 1j+2 1+7 1+3 1+4 9 a+2 t+3 1y 4+6 1 1+8 i+2 1p 2+7 c+8 2q 2+9 b+7 21+2
  r 1 1 4+2 1d+k 1+2 5+b 1+10 9 2s+k n+4 4+3 1+3 2+7 3+4 d+c 1 a+4 jj+3 qa+4 s+3 t+2 u+2 1s+w 9
  19+3 1 39+2 y 3a+c 4+c 63+5 1l+a 1+t 2 1c+1a 2+c k+5 1b+h 12+9 c+3 u+d 1k+e 1c+k 48+3 1+l 4 6
  2+3 5i+1s k0+x 2da+3 3x 2o+w fe+6 2x+2 n9w+4 1+a w+2 28+2 7k 3 4 n+5 4 2b+2 1e+i q+i d 12+8 p+d
  18+4 1b+e 10 1v+e c 8+2 19+3 1e 1+3 2+2 5+2 1 15+5 5+2 6k+8 1+2 fn4 kh+g g+g r1 6a 45+5 1ae+3
  1+2 5+4 14+3 4 4l+2 fx+4 1t+5 8t+2 25+6 1y+b 1d+4 3e+3 1h+f 15 2+2 a+4 19+b 7 1p+3 10+e g+2 18
  c+3 1c+e 8+4 1+2 2k+c 6 2 4d+c l+4 1j+2 1+7 2+2 2+3 9 a+2 2+7 3+5 1v+9 1 2 1+4 1+5 1 e+2 2a+i n
  29+k 6j+7 2+9 r+2 2a+h 2y+d 2t+f 74+f 6t+6 1+2 2+4 1 1+2 3x+7 2+7 3 s+a 14+7 1+4 8 9+b 1a+g 5i+8
  5j+8 1+8 2a+m 1+e 3e+6 3 1+2 1+7 1 1u+5 1+2 1+5 9n+4 9+2 1 1c+7 3+5 n 44l 6+f 8ug+i 1xc+5 1n+7
  t4 1+1j 7+4 29 b+2 f57+2 3mp+1a 2+n f2+5 3+6 8+8 2+7 u+4 44+3 1iz+1j 4+1e 8 e m+5 1+f 11s+7 1+h
  2+7 1+2 1+5 2s 4g+7 af 1p+4 e4+4 72+2 6r 2 7+2 5 d6+7 31+7 gzhx+6o"

end OutboundWatch.Unicode
