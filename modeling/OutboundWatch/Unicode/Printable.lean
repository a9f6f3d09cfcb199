import OutboundWatch.Unicode.RunTable

/-!
# Printable characters

Two properties of the Unicode character database: the characters that are not printed as themselves
(controls, formats, surrogates, private and unassigned code points, separators other than the space)
and the characters that extend the grapheme before them.
-/

namespace OutboundWatch.Unicode

def unprintable : CodeSet := RunTable.readSet "
  0+w 2n+y c ju+2 6+4 7 1 k b1 12+2 1e+2 3 1j+8 r+4 6+h m 5c 1c+2 1n+2 2t+e 1n+2 1d+2 f s+2 1 b+5
  w+7 23 4h 8+2 2+2 m 7 1+3 4+2 9+2 2+2 4+8 1+4 2 5+2 p+2 3 6+4 2+2 m 7 2 2 2+2 1 5+4 2+2 3+3 1+7
  4 1+7 h+a 3 9 3 m 7 2 5+2 a 3 3+2 1+f 4+2 c+7 7 3 8+2 2+2 m 7 2 5+2 9+2 2+2 3+7 3+4 2 5+2 i+a 2
  6+3 3 4+3 2 1 2+3 2+3 3+3 c+4 5+3 3 4+2 1+6 1+e l+5 d 3 n g+2 9 3 4+7 2 3 2+2 4+2 a+7 m 3 n a
  5+2 9 3 4+7 2+5 3 4+2 a 3+c d 3 1f 3 6+4 g+2 q 3 i+3 o 9 1+2 7+3 1+4 6 1 8+6 a+2 3+c 1m+4 t+11 2
  1 5 o 1 n+2 5 1 7 a+2 4+w 20 10+4 13 10 f d+11 5i 1+5 1+2 ah 4+2 7 1 4+2 15 4+2 x 4+2 7 1 4+2 f
  1l 4+2 1v+2 w+3 q+6 2e+2 6+2 hs s+3 2h+7 m+9 o+9 k+c d 3 2+c 2m+2 a+6 a+6 e b+6 2h+7 17+5 1y+a v
  c+4 c+4 1+3 16+2 5+b 18+4 q+6 b+3 1q+2 1t t+2 b+6 a+6 e+2 1a+2 c+k 25 4m+8 1o+3 f+3 1q+5 17+2
  b+8 17+5 eu+2 6+2 12+2 6+2 8 1 1 1 v+2 1h f e+2 6 j+2 3 9+h o+8 1b+h 2+2 r d+3 y+e x+f 3w+4 ii+m
  b+l 1ec+2 am+5 19 1+5 1+2 1k+7 2+e o+9 7 7 7 7 7 7 7 7 3i+y q 2h+c 5y+q g 1r 2e+2 2v+5 17 2m
  2e+9 1c mlp+3 1j+9 9o+k 54+8 65+k 1o+3 a+6 1k+8 1y+8 c+6 38+b u+3 26 b+4 x 1j+9 e+2 a+2 2v+o s+a
  6+2 6+2 6+9 7 7 1o+4 3i+2 a+6 8mc+c n+4 1d+6is a6+2 2y+12 7+c 5+5 q 5 1 2 2 i2+w 16+6 1f j 4+4 5
  3r+4 5a+3 6+2 6+2 6+2 3+3 7 7+d 2+2 c q j 2 f+2 e+y 3f+5 3+4 19+3 2g d+3 1+1b 1a+3m t+3 1d+f s+4
  10+9 u+5 17+5 u 11+4 e+16 4e+2 a+6 10+4 10+4 14+8 1g+b c f 7 2 b f 7 2+3 1g+c 8n+9 m+a 8+o 6 16
  9+1x 6+2 1 18 2+3 1+2 n 20+8 9+1c j 2+5 x+3 r+5 r+12 1k+4 k+2 1e 2+5 8 3 t+2 3+4 a+7 9+7 1s+w
  13+4 c+9 1i+3 t+2 r+5 q+7 4+c 7+28 21+1j 1f+d 1f+7 1a+8 a+6 12+3 t+8 2+5s v 16 3+2 2+g 6+8 9+x
  1a+8 16+m q+12 s+k n+9 26+4 10+9 1q 5+d p+7 a+6 1h i+8 13+9 2o k+b i 1b+1q 7 1 4 f b+6 1n+5 a+6
  4 8+2 2+2 m 7 2 5 a+2 2+2 3+2 1+6 1+5 7+2 7+3 5+b a 1+2 1 12 a 1+2 1 4 a 2+8 2+t 2k 5+u 20+8
  a+4m 1i+2 12+y 1x+b a+6 d+j 1m+6 a+6 k+s r+2 f+4 n+55 1o+2s 2b+c 8+2 1+2 8 2 u 2+2 c+9 a+1y 8+2
  1a+2 b+r 20+8 2b+d 21+7 a+2e 8+2g y+e a+6 9 19 e+a t+3 w+2 m e+21 7 2 18+3 1 2 9+8 a+6 6 2 11 2
  6+7 a+6 18+4 a+6u p+7 h 15+3 t+2d 1+f 1e+d pn+2u 33 5+b 5g+218 2r+d ts+g m+a 32z+5 g7+5a1 1m+1c6
  ft+7 v a+4 29 a+6 u+2 6+a 1y+a a 7 l+5 j+c0 1m+5i 2j+5 p+2 p+18 23+4 1l+7 h+1s 5+b 7+9 5p2+15
  w+2p 37+6pp 4 7 2 83+f 1+t 3+2 1+e 4+8 b0+1s4 2z+5 d+3 9+7 a+2 4+31c 71+3 c4+6 n+f h+f 1a+2 n+9
  38+1o 6u+a 13+2 22+8 34+l 1y+3e k+c k+c 2f+9 p+3r 2d 1z 2+2 1+2 2+2 4 c 1 7 1t 4+2 8 7 s 4 5 1+3
  7 9g+2 84+2 ji+f 5 f+uo v+6 6+5x 7 h+2 7 2 5+5 1q+x 1+34 19+3 e+2 a+4 2+8w v+h 1m+5 1+cw 16+5y
  17+4 1+5c v m+8 2+68 7 4 2 f 5h+2 g+15 24+4 a+4 2+lt 1w+24 1p+5e 4 r 2 1+2 1 a 4 1 1+6 1+4 1 1 1
  3 2 1+2 1 1 1 1 1 2 1+2 4 7 4 4 1 a h+5 3 5 h+1g 2+7i 18+4 2s+c f+2 f f 11+a 4u+1k t+d 18+4 9+7
  2+e 6+4a rd+3 h+3 d+3 62+6 c+4 1+f c+4 1k+8 a+6 14+8 u+2 c+4 2+e 9+13 9k+8 e+2 d+3 b+3 1l 1+4
  g+2 c+4 a+7 43 2v+sl wyo+w 3dq+2 4ge+2 5rl+f ha+1wi f2+15u 3t7+5 6ju+f62u 6o+47bk"

/-- Code points that attach to the character before them. -/
def graphemeExtend : CodeSet := RunTable.readSet "
  lc+34 7n+7 7b+19 1 1+2 1+2 1 20+b 1c+l g 2t+7 2+6 2+2 1+4 z u+r 2j+b 1m+9 9 o+4 1+9 1+3 1+5 17+3
  1n+9 16+o 1+w 1j 1 4+8 4 3+7 a+2 t 1m 1 2+4 8 9 a+2 q 2+2 1l 4+2 4+2 2+3 3 u+2 3 b+2 1l 4+5 1+2
  4 k+2 m+6 1 1m 1+2 1+4 8 7+3 a+2 u 1n 1 c 9 14 3 1j 1+3 5+3 1+4 7+2 b+2 t 1m 2+2 1 3+3 1+4 7+2
  b+2 s+2 1l+2 1 2+4 8 9 a+2 t 20 4 2+3 1 8 29 2+7 c+8 2q 2+9 b+7 21+2 r 1 1 1j+e 1+5 1+2 5+b 1+10
  9 2u+4 1+6 1+2 2+2 p+2 4+3 g+4 d 2+2 6 f jj+3 qa+4 s+3 t+2 u+2 1s+2 1+7 8 2+b 9 19+3 1 39+2 y
  3a+3 4+2 9 6+3 63+2 2 1m 1+7 1 1 2+8 6+a 2 1c+1a 2+c k+4 1c+a 4+3 12+9 c+2 w+4 2+6 1k 1+2 3 1+5
  1k+8 2+2 48+3 1+d 1+7 4 6 3+2 5i+1s ek 5f+x 2da+3 3x 2o+w fe+6 2x+2 n9w+4 1+a w+2 28+2 7k 3 4
  p+2 5 47+2 q+i d 12+8 p+b 1 18+3 1c 2+4 2+2 2 10 1v+6 2+2 2+2 c 8 1b 1f 1+3 2+2 5+2 1 16+2 8 6m
  2 4 fn4 kh+g g+g a6+2 gt 6a 45+5 1ae+3 1+2 5+4 14+3 4 4l+2 fx+4 1t+5 8t+2 25+6 1y+b 1d+4 3f 1i+f
  15 2+2 a+3 1d+4 2+2 7 1p+3 10+5 1+8 1q c+2 1g+9 1 8+4 2 2n+3 2+4 6 2 4d 3+8 l+2 1l+2 1 1 c 9 e+7
  3+5 1v 2+6 1 2 1+3 4+3 1 e+2 2d+8 2+3 1 n 29 2+6 1 2 1+2 1+2 6j 2+4 6+2 1+2 r+2 2d+8 2 1+2 2y 1
  2+8 2t 1 2+4 1+5 77+9 1+2 6t a+4 4 40+4 2+2 4 w+a 14+6 2+4 8 9+6 2+3 1a+d 1+2 5i 1+3 1 5l+7 1+6
  1 2a+m 2+7 1+2 1+2 3e+6 3 1+2 1+7 1 20+2 3 1 9n+2 b+2 1g+5 5+3 n 44l 6+f 8ug+c 3+3 1xc+5 1n+7 t4
  1r+4 29 b+2 f57+2 3mp+1a 2+n f2+5 3+6 8+8 2+7 u+4 44+3 1iz+1j 4+1e 8 e m+5 1+f 11s+7 1+h 2+7 1+2
  1+5 2s 4g+7 af 1p+4 e4+4 72+2 6r 2 7+2 5 d6+7 31+7 gzbp+2o 3k+6o"

/-- Whether a character is printed as itself wherever it stands. -/
def isPrintable (c : Char) : Bool := !unprintable.contains c && !graphemeExtend.contains c

end OutboundWatch.Unicode
