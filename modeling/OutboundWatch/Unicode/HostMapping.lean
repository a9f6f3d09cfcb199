import OutboundWatch.Unicode.RunTable

/-!
# The mapping of host names

The mapping table for internationalized domain names (UTS 46): every code point of a host name is kept,
dropped, replaced by others or not allowed. In the text of the table, the value of a run is a letter
and its argument. A run of kind `p` alternates between a letter that maps to its successor and that
successor.
-/

namespace OutboundWatch.Unicode

inductive HostStatus where
  | valid
  | ignored
  | shifted (offset : Int)
  | sequence (codes : List Nat)
  | paired

def HostStatus.decode : List Char → HostStatus
  | 'i' :: _ => ignored
  | 's' :: offset => shifted (base36 offset)
  | 't' :: offset => shifted (-(base36 offset : Int))
  | 'm' :: codes => sequence ((codes.splitOn '.').map base36)
  | 'p' :: _ => paired
  | _ => valid

/-- All code points that are allowed in a host name before mapping. -/
def hostStatuses : RunTable HostStatus := RunTable.read HostStatus.decode "
  0+1t=v 0+q=sw 0+11=v w=t3k 0+7=v 0=mw.lk 0=v 0=t21 0+2=v 0=i 0=v 0=mw.lg 0+2=v 0+2=t3k 0=mw.ld
  0=slj 0+2=v 0=mw.mf 0=t3s 0=t23 0=v 0=m1d.6dg.1g 0=m1d.6dg.1e 0=m1f.6dg.1g 0=v 0+n=sw 0=v 0+7=sw
  0+x=v 0+1c=p 0=m2x.lj 0=v 0=m2x.2y 0=m2x.2y 0+4=p 0=v 0+6=p 0=m30.53 0=m30.53 0+8=p 0=mjg.32
  0+1a=p 0=t3d 0+6=p 0=t7g 0=v 0=s5u 0+4=p 0=s5q 0=s1 0=v 0+2=s5p 0=s1 0+2=v 0=s27 0=s5m 0=s5n
  0=s1 0=v 0=s5p 0=s5r 0=v 0=s5v 0=s5t 0=s1 0+3=v 0=s5v 0=s5x 0=v 0=s5y 0+6=p 0=s62 0=s1 0=v 0=s62
  0+2=v 0=s1 0=v 0=s62 0=s1 0=v 0+2=s61 0+4=p 0=s63 0=s1 0+3=v 0=s1 0+7=v 0=m2s.am 0=m2s.am
  0=m2s.am 0=m30.2y 0=m30.2y 0=m30.2y 0=m32.2y 0=m32.2y 0=m32.2y 0+g=p 0=v 0+i=p 0=v 0=m2s.3e
  0=m2s.3e 0=m2s.3e 0=s1 0=v 0=t2p 0=t1k 0+14=p 0=t3m 0=v 0+i=p 0+6=v 0=s8bv 0=s1 0=v 0=t4j 0=s8bs
  0+2=v 0=s1 0=v 0=t5f 0=s1x 0=s1z 0+a=p 0+2o=v 0=tg8 0=t23 0=tg8 0=tg1 0=t1n 0=t1m 0=t1h 0=tg0
  0=tfz 0+v=v 0=mw.li 0=mw.lj 0=mw.lm 0=mw.mg 0=mw.lf 0=mw.ln 0+2=v 0=t3h 0=thh 0=thb 0=th7 0=t27
  0+2j=v 0+2=t1s 0=v 0=t1c 0=mlk.ld 0=s38 0+9=v 0=i 0+w=v 0+4=p 0=t57 0=v 0=s1 0=v 2=mw.qh 0+3=v
  0=tn7 0=s38 4=mw.ld 0=mw.lk.ld 0=s12 0=tk0 0+3=s11 1=s1s 1+2=s1r 0=v 0+h=sw 1+9=sw 0+z=v 0=s8
  0=tu 0=tp 0=td 0=t6 0=t9 0=tf 0=tm 0=v 0+o=p 0=t1i 0=t1c 0=t1b 0=v 0=t1o 0=t1s 0=v 0=s1 0=v
  0=t1i 0=s1 0+2=v 0+3=t3m 0+g=s28 0+w=sw 0+1c=v 0+y=p 0+8=v 0+1i=p 0=sf 0+e=p 0=v 0+2o=p 1+12=s1c
  2+1a=v 0=m12d.136 0+3=v 2+3=v 1+1j=v 8+r=v 4+6=v h+m=v 1+2g=v 0=m17r.19w 0=m18o.19w 0=m1c7.19w
  0=m18q.19w 0+2s=v 1+1c=v 2+1n=v 2+2t=v e+1n=v 2+1d=v 2+f=v 1+s=v 2=v 1+b=v 5+w=v 7+23=v 1+39=v
  0=m1sl.1to 0=m1sm.1to 0=m1sn.1to 0=m1ss.1to 0=m1sx.1to 0=m1sy.1to 0=m1t7.1to 0=m1tb.1to 0+10=v
  1+8=v 2+2=v 2+m=v 1+7=v 1=v 3+4=v 2+9=v 2+2=v 2+4=v 8=v 4=m1wh.1x8 0=m1wi.1x8 1=m1wv.1x8 0+4=v
  2+p=v 2+3=v 1+6=v 4+2=v 2+m=v 1+7=v 1=v 0=m20i.20s 1=v 0=m20o.20s 1+2=v 2=v 1+5=v 4+2=v 2+3=v
  3=v 7=m1zq.20s 0=m1zr.20s 0=m1zw.20s 0=v 1=m20b.20s 7+h=v a+3=v 1+9=v 1+3=v 1+m=v 1+7=v 1+2=v
  1+5=v 2+a=v 1+3=v 1+3=v 2=v f+4=v 2+c=v 7+7=v 1+3=v 1+8=v 2+2=v 2+m=v 1+7=v 1+2=v 1+5=v 2+9=v
  2+2=v 2+3=v 7+3=v 4=m275.27w 0=m276.27w 1+5=v 2+i=v a+2=v 1+6=v 3+3=v 1+4=v 3+2=v 1=v 1+2=v
  3+2=v 3+3=v 3+c=v 4+5=v 3+3=v 1+4=v 2=v 6=v e+l=v 5+d=v 1+3=v 1+n=v 1+g=v 2+9=v 1+3=v 1+4=v
  7+2=v 1+3=v 1+2=v 2+4=v 2+a=v 7+m=v 1+3=v 1+n=v 1+a=v 1+5=v 2+9=v 1+3=v 1+4=v 7+2=v 5+3=v 1+4=v
  2+a=v 1+3=v c+d=v 1+3=v 1+1f=v 1+3=v 1+6=v 4+g=v 2+q=v 1+3=v 1+i=v 3+o=v 1+9=v 1=v 2+7=v 3=v
  4+6=v 1=v 1+8=v 6+a=v 2+3=v c+1e=v 0=m2tp.2sy 0+7=v 4+t=v 11+2=v 1=v 1+5=v 1+o=v 1=v 1+c=v
  0=m2x9.2wi 0+a=v 2+5=v 1=v 1+7=v 1+a=v 2=m2wb.2vt 0=m2wb.2w1 0+2=v w+c=v 0=t1 0+1i=v 0=m30i.33r
  0+4=v 1+4=v 0=m30s.33r 0+4=v 0=m30x.33r 0+4=v 0=m312.33r 0+4=v 0=m317.33r 0+c=v 0=m30g.33p 0+3=v
  4+2=v 0=m31t.31u 0=v 0=m31t.31w 0=m33m.328 0=m33m.31t.328 0=m33n.328 0=m33n.31t.328 0+7=v
  0=m31t.328 0+h=v 0=m32q.33r 0+4=v 1+4=v 0=m330.33r 0+4=v 0=m335.33r 0+4=v 0=m33a.33r 0+4=v
  0=m33f.33r 0+c=v 0=m32o.33p 0+3=v 1+f=v 1+d=v 11+4g=v 0+12=s5ls 1=s5ls 5=s5ls 2+18=v 0=tw 0+2q=v
  0+2=i 0+6g=v 1+4=v 2+7=v 1=v 1+4=v 2+15=v 1+4=v 2+x=v 1+4=v 2+7=v 1=v 1+4=v 2+f=v 1+1l=v 1+4=v
  2+1v=v 2+w=v 3+q=v 6+2e=v 2+6=t8 2+hs=v 1+s=v 3+2h=v 7+m=v 9+o=v 9+k=v c+d=v 1+3=v 1+2=v c+1g=v
  0+2=i 0+14=v 2+a=v 6+a=v 6+b=v 0+5=i 0+a=v 6+2h=v 7+17=v 5+1y=v a+v=v 1+c=v 4+c=v 4=v 3+16=v
  2+5=v b+18=v 4+q=v 6+b=v 3+1q=v 2+1t=v 1+t=v 2+b=v 6+a=v 6+e=v 2+1a=v 2+c=v k+25=v 1+4m=v 8+1o=v
  3+f=v 3+1f=v 0=t4su 0=t4st 0=t4sk 0+2=t4si 0=t4sj 0=t4sc 0=t4ro 0=sr7n 0=s1 0=v 5+17=t2bk
  2+3=t2bk 0+8=v 8+17=v 5+18=v 0=t5or 0=t5l3 0=t5os 0=v 0+2=t5os 0=t5ed 0+8=t5os 0=v 0=t5ot 0=t5cq
  0=t5ou 0=t5ot 0+2=t5os 0=t5or 0=t5pe 0+2=t5bo 0=t1w 0=t5ph 0+2=t5pg 0=t5bl 0+2=t5bk 0=t5pi 0=v
  0=t5pg 0=t5pf 0=t5ja 0=t5pf 0=t5bz 0+2=t1q 0=t5pi 0+2=t5pf 0=t1o 0=t5bf 0=t5ph 0=t1j 0+3=t52j
  0+2=t522 0=t5q1 0=t5pt 0+2=t5pr 0+2=t52s 0=t52f 0+2=t52b 0+d=v 0=t4zf 0+y=v 0=t5e1 0=t5rt 0=t5e0
  0=t5ny 0=t5dv 0=t5ru 0=t5du 0=t5dt 0=t5dq 0+3=t5do 0=t18 0=t5cb 0=t5do 0=t11 0=t5cc 0=t5dn
  0=t5dp 0+4=t5do 0=t5dm 0+2=t5dd 0=t5je 0+2=t5d9 0=t4c 0+2=t5da 0=t5s1 0+3=t5d8 0=t553 0+1s=v
  0+46=p 0+4=v 0=m2p.ji 0=t1m 0+2=v 0=t5vj 0=v 0+2o=p 0+8=v 0+8=t8 0+6=v 2+6=t8 2+8=v 0+8=t8 0+8=v
  0+8=t8 0+6=v 2+6=t8 2+8=v 1=t8 1=t8 1=t8 1=t8 0+8=v 0+8=t8 0=v 0=t5hh 0=v 0=t5hi 0=v 0=t5hj 0=v
  0=t5hk 0=v 0=t5gt 0=v 0=t5gu 0=v 0=t5gv 2=m64g.qh 0=m64h.qh 0=m64i.qh 0=m64j.qh 0=m64k.qh
  0=m64l.qh 0=m64m.qh 0=m64n.qh 0=m64g.qh 0=m64h.qh 0=m64i.qh 0=m64j.qh 0=m64k.qh 0=m64l.qh
  0=m64m.qh 0=m64n.qh 0=m65c.qh 0=m65d.qh 0=m65e.qh 0=m65f.qh 0=m65g.qh 0=m65h.qh 0=m65i.qh
  0=m65j.qh 0=m65c.qh 0=m65d.qh 0=m65e.qh 0=m65f.qh 0=m65g.qh 0=m65h.qh 0=m65i.qh 0=m65j.qh
  0=m674.qh 0=m675.qh 0=m676.qh 0=m677.qh 0=m678.qh 0=m679.qh 0=m67a.qh 0=m67b.qh 0=m674.qh
  0=m675.qh 0=m676.qh 0=m677.qh 0=m678.qh 0=m679.qh 0=m67a.qh 0=m67b.qh 0+2=v 0=m67k.qh 0=mq9.qh
  0=mq4.qh 1=v 0=m69i.qh 0+2=t8 0=t22 0=t5jj 0=mq9.qh 0=mw.lv 0=t5j9 0=mw.lv 0=mw.n6 0=mw.lk.n6
  0=m67o.qh 0=mqf.qh 0=mq6.qh 1=v 0=m69y.qh 0=t2e 0=t5jw 0=t2e 0=t5jx 0=mqf.qh 0=mw.lv.lc
  0=mw.lv.ld 0=mw.lv.n6 0+3=v 0=t5kz 2+2=v 0+2=t8 0=t2s 0=t5kc 1=mw.lw.lc 0=mw.lw.ld 0=mw.lw.n6
  0+3=v 0=t5kj 0+4=v 0+2=t8 0=t34 0=t5jy 0=t7 0=mw.lk.lc 0=mw.lk.ld 0=t68f 2=m67w.qh 0=mqx.qh
  0=mr2.qh 1=v 0=m6ba.qh 0=t3k 0=t5kd 0=t3i 0=t5kd 0=mqx.qh 0=mw.ld 0=mw.lw 1=t6ao 0=t6ap 0=t6aq
  0=t6ar 0=t6as 0=t6at 0=t6au 0=t6av 0=t6aw 0=t6ax 0=t6ay 0=i 0+2=v 2=v 0=t1 0+5=v 0=mw.mr 0+c=v
  3=v 7=t6bz 0+3=v 0=m6cy.6cy 0=m6cy.6cy.6cy 0=v 0=m6d1.6d1 0=m6d1.6d1.6d1 0+4=v 0=mx.x 0=v
  0=mw.lh 0+8=v 0=m1r.1r 0=m1r.x 0=mx.1r 0+d=v 0=m6cy.6cy.6cy.6cy 0+7=v 0=t6db 0+5=i 5+6=i 0=t6dc
  0=t6bs 2+6=t6dc 0=t6dr 0=sbb 0=t6db 0+2=t6dx 0=t6c1 0+a=t6ds 0=t6e7 0=sav 0=t6dr 0+2=t6ed 1=t6cv
  0=t6cs 0=t6cj 0=t6cb 0=t5yz 0=t6ct 0+4=t6cr 0=t6cq 0+2=t6co 3+8=v 0=m36.37 0+p=v e+x=v
  f=m2p.1b.2r 0=m2p.1b.37 0=t6fz 0=m4w.2r 0=v 0=m2r.1b.33 0=m2r.1b.39 0=t624 0=v 0=m4w.2u 0+2=t6g3
  0=t6g4 0=t6g5 0=t6g6 0=t6aw 0=t6g7 0=t6g8 0=t6g6 0=t6g7 0=v 0=t6g7 0=m32.33 0+2=v 0+3=t6g9
  0=t6ga 0=t6gb 0+2=v 0=m37.31 0=m38.2t.30 0=m38.31 0=v 0=t6ga 0=v 0=t5st 0=v 0=t6ge 0=v 0=t6gv
  0=t6di 0+2=t6h6 0=v 0=t6h6 0+2=t6h7 0=ss 0=t6h2 0=t6h1 0+4=t5et 0=t6hc 0=v 0=m2u.2p.3c 0=t5to
  0=t5u2 0=t5u3 0=t5tr 0=s5t 0+4=v 0=t6ht 0+2=t6hu 0+2=t6hr 0+6=v 0=m1d.6dg.1j 0=m1d.6dg.1l
  0=m1d.6dg.1d.1c 0=m1d.6dg.1f 0=m1e.6dg.1f 0=m1d.6dg.1h 0=m1e.6dg.1h 0=m1f.6dg.1h 0=m1g.6dg.1h
  0=m1d.6dg.1i 0=m1h.6dg.1i 0=m1d.6dg.1k 0=m1f.6dg.1k 0=m1h.6dg.1k 0=m1j.6dg.1k 0=m1d.6dg 0=t6if
  0=m2x.2x 0=m2x.2x.2x 0=m2x.3a 0=t6i6 0=m3a.2x 0=m3a.2x.2x 0=m3a.2x.2x.2x 0=m2x.3c 0=t6i9
  0=m3c.2x 0=m3c.2x.2x 0=t6io 0+2=t6iy 0=t6iq 0=t6iv 0=m2x.2x 0=m2x.2x.2x 0=m2x.3a 0=t6im 0=m3a.2x
  0=m3a.2x.2x 0=m3a.2x.2x.2x 0=m2x.3c 0=t6ip 0=m3c.2x 0=m3c.2x.2x 0=t6j4 0+2=t6je 0=t6j6 0+3=v
  0=s1 0+5=v 0=m1c.6dg.1f 0+2=v 4+4c=v 0=m6qz.6qz 0=m6qz.6qz.6qz 0=v 0=m6r2.6r2 0=m6r2.6r2.6r2
  0+6w=v 0+2=s2jj 0+73=v m+b=v l+9=t75b 0=m1d.1c 0=m1d.1d 0=m1d.1e 0=m1d.1f 0=m1d.1g 0=m1d.1h
  0=m1d.1i 0=m1d.1j 0=m1d.1k 0=m1d.1l 0=m1e.1c 0=m14.1d.15 0=m14.1e.15 0=m14.1f.15 0=m14.1g.15
  0=m14.1h.15 0=m14.1i.15 0=m14.1j.15 0=m14.1k.15 0=m14.1l.15 0=m14.1d.1c.15 0=m14.1d.1d.15
  0=m14.1d.1e.15 0=m14.1d.1f.15 0=m14.1d.1g.15 0=m14.1d.1h.15 0=m14.1d.1i.15 0=m14.1d.1j.15
  0=m14.1d.1k.15 0=m14.1d.1l.15 0=m14.1e.1c.15 k=m14.2p.15 0=m14.2q.15 0=m14.2r.15 0=m14.2s.15
  0=m14.2t.15 0=m14.2u.15 0=m14.2v.15 0=m14.2w.15 0=m14.2x.15 0=m14.2y.15 0=m14.2z.15 0=m14.30.15
  0=m14.31.15 0=m14.32.15 0=m14.33.15 0=m14.34.15 0=m14.35.15 0=m14.36.15 0=m14.37.15 0=m14.38.15
  0=m14.39.15 0=m14.3a.15 0=m14.3b.15 0=m14.3c.15 0=m14.3d.15 0=m14.3e.15 0+q=t76d 0+q=t773 0=t796
  0+10h=v 0=m6qz.6qz.6qz.6qz 0+2v=v 0=m1m.1m.1p 0=m1p.1p 0=m1p.1p.1p 0+2t=v 0=m8gt.mw 0+47=v
  2+3u=v 0+1c=s1c 0+1c=v 0=s1 0=v 0=t8af 0=t2xy 0=t89z 0+2=v 0+6=p 0=t8bg 0=t8al 0=t8bj 0=t8bi 0=v
  0=s1 0+2=v 0=s1 0+6=v 0=t8pe 0=t8p3 0+2=t8cf 0+2s=p 0+7=v 0+4=p 0+3=v 0=s1 0=v 5+19=v 1=v 5=v
  2+1k=v 7=te 0=v e+o=v 9+7=v 1+7=v 1+7=v 1+7=v 1+7=v 1+7=v 1+7=v 1+7=v 1+3i=v y+q=v 1+4=v 0=sc32
  0+2b=v 0=sm98 c=s64g 0=s65j 0=s65w 0=s664 0=s66t 0=s680 0=s686 0=s68p 0=s69e 0=s6ra 0=s6sb
  0=s6sg 0=s6t2 0=s6tl 0=s6u5 0=s6vl 0=s6w5 0=s6wf 0=s70p 0=s73a 0=s741 0=s745 0=s74y 0=s756
  0=s75w 0=s768 0=s76w 0=s78b 0=s78s 0=s79i 0=s7uh 0=s7wg 0=s897 0=s89t 0=s8a0 0=s8aa 0=s8ar
  0=s8cu 0=s8q2 0=s8rd 0=s8uo 0=s8va 0=s8vs 0=s8wd 0=s8xu 0=s8xw 0=s97x 0=s986 0=s98h 0=s98t
  0=s9c0 0=s9c7 0=s9cb 0=s9fj 0=s9fs 0=s9g4 0=s9gb 0=s9hz 0=s9if 0=s9iw 0=s9l3 0=sa17 0=sa2g
  0=sa30 0=sanj 0=sann 0=sapx 0=saqc 0=saqo 0=sar8 0=sasa 0=sase 0=sazs 0=sb0f 0=sb1a 0=sbth
  0=sbva 0=sbvw 0=sbxh 0=sby4 0=sbyc 0=sbyi 0=sbzx 0=sc01 0=sc0w 0=scuu 0=sd78 0=sd7j 0=sd7n
  0=sd7q 0=sd7x 0=sd8e 0=sd8f 0=sdan 0=sdgm 0=sdgq 0=sdq4 0=sdqd 0=sdrq 0=sdrw 0=sds4 0=sdsb
  0=sdut 0=sduz 0=se1a 0=se1g 0=se2s 0=se38 0=se4i 0=seb2 0=seb8 0=sebo 0=sekq 0=seo7 0=seoc
  0=setd 0=sevr 0=sex0 0=sf7h 0=sfb5 0=sfr2 0=sfrs 0=sftc 0=sfuq 0=sfwl 0=sfwv 0=sfx0 0=sfxw
  0=sfzz 0=sg08 0=sg9t 0=sg9z 0=sga7 0=sgaf 0=sgau 0=sgb8 0=sgbb 0=sgdh 0=sgdk 0=sgdp 0=sh4x
  0=sh5q 0=shiq 0=shj1 0=shjn 0=shrh 0=shrt 0=shtr 0=shv0 0=siaq 0=sib4 0=sibi 0=sicg 0=sidg
  0=siiy 0=sij9 0=sil3 0=siry 0=siss 0=siyk 0=siz4 0=siz8 0=sj5b 0=sjae 0=sjdu 0=sjdz 0=sje3
  0=sk40 0=sk48 0=sk8j 0=skcs 0=skcu 0=ske4 0=skh0 0=skhc 0=skhf 0=skhl 0=skka 0=skl7 0=sklc
  0=sklp 0=skqb 0=skrp 0=skrs 0=skwu 0=skww 0=skxe 0=sl4d 0=sl5o 0=sl5u 0=sl7r 0=sl80 0=sl82
  0=sl8b 0=sl94 0=slk2 0=slv5 0=slve 0=slwf 0=slx0 0=slx7 0=slxg 0=slxj 0=slym 0=slyp 0=slz5
  0=slz9 0=slzl 0=sm0b 0=sm0p 0=sm0w 0=sm2i 0=sm2w 0=sm2z 16=t9gg 0=v 0=t9g4 0+1f=v 0=t10 0=v
  0=s6x5 0+2=s6x7 0+5=v 1+2e=v 2+2=v 0=mw.9ll 0=mw.9lm 0+2=v 0=m9l4.9l6 0+2n=v 0=m9mb.9mw 5+17=v
  1+2=t6cx 0=t689 0=t6cy 0+2=t689 0+3=t6d0 0+6=t68a 0=t6cm 0+3=t6d7 0=t6cj 0+a=t6d8 0+l=t6b2 0=i
  0+2=t6dt 0+2=t68w 0=t68t 0=t68s 0=t68o 0=t68l 0=t68k 0=t6du 0=t68i 0=t68h 0+2=t6dw 0=t6dv
  0+2=t6du 0=t6dr 0=t6dq 0+5=t6dp 0=t6dn 0=t6dk 0=t6db 0=t6d5 0=t6d1 0+2=t68h 0+3=t6ct 0+2=t6bn
  0=t6bl 0+2=t6bd 0=t6bc 0=t6b3 0=t6b1 1+2=v 0=s5m6 0=s5q1 0=s5md 0=s7d2 0=s5mc 0=s5na 0=s5mb
  0=sdcp 0=s5of 0=s5mm 0=s5lx 0=s7t8 0=s7f6 0=s5qz 0+1y=v a+g=v 0=m14.3cw.15 0=m14.3cy.15
  0=m14.3cz.15 0=m14.3d1.15 0=m14.3d2.15 0=m14.3d3.15 0=m14.3d5.15 0=m14.3d7.15 0=m14.3d8.15
  0=m14.3da.15 0=m14.3db.15 0=m14.3dc.15 0=m14.3dd.15 0=m14.3de.15 0=m14.xz4.15 0=m14.yvs.15
  0=m14.zc4.15 0=m14.108s.15 0=m14.10p4.15 0=m14.115g.15 0=m14.1224.15 0=m14.12ys.15 0=m14.13f4.15
  0=m14.14bs.15 0=m14.14s4.15 0=m14.158g.15 0=m14.15os.15 0=m14.1654.15 0=m14.13p8.15
  0=m14.1350.13ic.15 0=m14.1350.16f8.15 1=m14.feo.15 0=m14.fik.15 0=m14.fex.15 0=m14.h5n.15
  0=m14.fis.15 0=m14.g31.15 0=m14.fer.15 0=m14.g2z.15 0=m14.fh9.15 0=m14.gg1.15 0=m14.kco.15
  0=m14.m7f.15 0=m14.ldg.15 0=m14.kdk.15 0=m14.ssx.15 0=m14.h7j.15 0=m14.k4l.15 0=m14.kkq.15
  0=m14.kcp.15 0=m14.ny6.15 0=m14.glp.15 0=m14.mm1.15 0=m14.rs1.15 0=m14.nz1.15 0=m14.gc4.15
  0=m14.fkz.15 0=m14.gos.15 0=m14.i1y.15 0=m14.nhf.15 0=m14.flt.15 0=m14.rt3.15 0=m14.ggk.15
  0=m14.nzh.15 0=m14.fm9.15 0=m14.pnu.15 0=m14.po3.15 0=s6x7 0=s8qf 0=sa4h 0=seh4 0+8=v
  0=m34.38.2t 0=m1e.1d 0=m1e.1e 0=m1e.1f 0=m1e.1g 0=m1e.1h 0=m1e.1i 0=m1e.1j 0=m1e.1k 0=m1e.1l
  0=m1f.1c 0=m1f.1d 0=m1f.1e 0=m1f.1f 0=m1f.1g 0=m1f.1h 0=t6lc 0+2=t6lb 0+3=t6la 0=t6l9 0+2=t6l8
  0+5=t6l7 0=so0i 0=sox5 0=spdg 0=sqa3 0=sqqe 0=sr6p 0=ss3c 0=sszz 0=stga 0=sucx 0=sut8 0=sv9j
  0=svpu 0=sw65 0=m14c8.y5c 0=m13p8.13dk 0=st9u 0=v 0=s5fk 0=s5jf 0=s5fr 0=s76g 0=s5jk 0=s63s
  0=s5fh 0=s63o 0=s5hx 0=s6go 0=sada 0=sc80 0=sbe0 0=sae3 0=sitf 0=s780 0=sa51 0=sal5 0=sad3
  0=sdyj 0=s6m1 0=scmc 0=shsb 0=sdza 0=s6cc 0=se2n 0=sd5p 0=s7o8 0=sij1 0=s619 0=s6he 0=sbih
  0=sk11 0=s5m8 0=s647 0=sb7k 0=s5eu 0=s5fs 0=s5et 0=s8jj 0=s6kr 0=s6fm 0=s831 0=s81n 0=sdh3
  0=s5lg 0=shsp 0=s6g5 0=s7l8 0=m1f.1i 0=m1f.1j 0=m1f.1k 0=m1f.1l 0=m1g.1c 0=m1g.1d 0=m1g.1e
  0=m1g.1f 0=m1g.1g 0=m1g.1h 0=m1g.1i 0=m1g.1j 0=m1g.1k 0=m1g.1l 0=m1h.1c 0=m1d.kco 0=m1e.kco
  0=m1f.kco 0=m1g.kco 0=m1h.kco 0=m1i.kco 0=m1j.kco 0=m1k.kco 0=m1l.kco 0=m1d.1c.kco 0=m1d.1d.kco
  0=m1d.1e.kco 0=m2w.2v 0=m2t.36.2v 0=m2t.3a 0=m30.38.2s 0=tfi 0=tfh 0=tfg 0=tff 0+2=tfe 0=tfd
  0=tfc 0=tfb 0=tfa 0=tf9 0=tf8 0=tf7 0=tf6 0=tf5 0=tf4 0=tf3 0=tf1 0=tf0 0=tez 0+6=tey 0=tew
  0=teu 0=tes 0=teq 0+5=teo 0=ten 0=tem 0+6=tel 0+4=tek 0=mfl0.gp8 0=m9lu.9n5.9oc.9mw
  0=m9lu.9nv.9n9.9lt 0=m9lu.9o3.9ne.9lu 0=m9lu.9oc.9nv 0=m9lw.9mz.9o3.9m8 0=m9lw.9o3.9mp
  0=m9ly.9m1.9o3 0=m9m0.9mh.9m7.9oc.9mx 0=m9m0.9oc.9m3.9oc 0=m9m2.9o3.9mh 0=m9m2.9oc.9nk
  0=m9m3.9lw.9nu 0=m9m3.9nt.9mr.9mw 0=m9m3.9nx.9nu.9oc 0=m9m4.9nx.9o3 0=m9m4.9o3.9ni 0=m9m6.9m4
  0=m9m6.9mz.9oc 0=m9m5.9np.9nu.9oc 0=m9m6.9nv.9mo.9oc 0=m9m5.9nx 0=m9m5.9nx.9m8.9nt.9nk
  0=m9m5.9nx.9nl.9oc.9mw.9nv 0=m9m5.9nx.9nz.9mr.9mw 0=m9m8.9nt.9nk 0=m9m8.9nt.9nk.9mw.9o3
  0=m9m7.9nv.9mk.9lw.9nx 0=m9m7.9nx.9oc.9n1 0=m9m9.9oc.9mh 0=m9mb.9nv.9my 0=m9mb.9oc.9nh
  0=m9md.9lw.9m7.9nv 0=m9md.9o3.9mp.9oc.9nk 0=m9mf.9nu.9o3.9m8 0=m9mj.9o3.9mp 0=m9mj.9o3.9mw
  0=m9mo.9oc.9mh 0=m9mv.9mf 0=m9mx.9nv 0=m9mw.9o3 0=m9my.9n2 0=m9n2.9mr.9mw 0=m9n3.9lw.9ms
  0=m9n5.9oc.9mj.9o3.9mw 0=m9n5.9oc.9ms 0=m9n4.9oc.9nw.9nv 0=m9n8.9lu.9mh.9mw.9nv 0=m9n8.9m7.9nv
  0=m9n8.9mb 0=m9n7.9nv 0=m9n9.9lt.9nt.9mr.9mx 0=m9n9.9lv.9oc.9mw 0=m9na.9mr.9mf.9lz.9nv
  0=m9n9.9nt.9o3 0=m9nc.9m7.9mn.9oc.9nv 0=m9ne.9ml 0=m9ne.9mz.9n6 0=m9nc.9nv.9ms 0=m9ne.9o3.9mh
  0=m9ne.9oc.9mg 0=m9nd.9oc.9mn 0=m9nh.9lw.9o3.9mw 0=m9ng.9nv.9mw 0=m9nf.9o3 0=m9nh.9o3.9mx
  0=m9nf.9oc.9nv 0=m9nf.9oc.9o3 0=m9ni.9lw.9m7.9nx 0=m9ni.9lw.9nv 0=m9ni.9mr.9n3 0=m9ni.9nv.9m7
  0=m9ni.9o3.9mf.9nr.9o3 0=m9nj.9m7.9nx.9o3 0=m9nj.9nu 0=m9nj.9nu.9n4.9oc.9nv 0=m9nl.9m4
  0=m9nl.9m4.9mw.9o3 0=m9nl.9oc.9mw.9nv 0=m9no.9oc.9mx 0=m9no.9oc.9nv 0=m9nq.9lu.9o3
  0=m9nu.9mr.9mw.9nv 0=m9nu.9nt 0=m9nv.9n8.9oc 0=m9nv.9oc.9na.9nv 0=m9nw.9nk
  0=m9nw.9o3.9mw.9ma.9o3 0=m9nz.9mr.9mw 0=m1c.m9l 0=m1d.m9l 0=m1e.m9l 0=m1f.m9l 0=m1g.m9l
  0=m1h.m9l 0=m1i.m9l 0=m1j.m9l 0=m1k.m9l 0=m1l.m9l 0=m1d.1c.m9l 0=m1d.1d.m9l 0=m1d.1e.m9l
  0=m1d.1f.m9l 0=m1d.1g.m9l 0=m1d.1h.m9l 0=m1d.1i.m9l 0=m1d.1j.m9l 0=m1d.1k.m9l 0=m1d.1l.m9l
  0=m1e.1c.m9l 0=m1e.1d.m9l 0=m1e.1e.m9l 0=m1e.1f.m9l 0=m1e.1g.m9l 0=m2w.34.2p 0=m2s.2p 0=m2p.39
  0=m2q.2p.36 0=m33.3a 0=m34.2r 0=m2s.31 0=m2s.31.1e 0=m2s.31.1f 0=m2x.39 0=minn.jdc 0=mk6l.gp8
  0=mhlz.l7n 0=mk5q.lh7 0=mkkq.irz.fmi.ny6 0=m34.2p 0=m32.2p 0=mqk.2p 0=m31.2p 0=m2z.2p 0=m2z.2q
  0=m31.2q 0=m2v.2q 0=m2r.2p.30 0=m2z.2r.2p.30 0=m34.2u 0=m32.2u 0=mqk.2u 0=mqk.2v 0=m31.2v
  0=m2z.2v 0=m2w.3e 0=m2z.2w.3e 0=m31.2w.3e 0=m2v.2w.3e 0=m38.2w.3e 0=mqk.30 0=m31.30 0=m2s.30
  0=m2z.30 0=m2u.31 0=m32.31 0=mqk.31 0=m31.31 0=m2r.31 0=m2z.31 0=m31.31.1e 0=m2r.31.1e 0=m31.1e
  0=m2z.31.1e 0=m31.31.1f 0=m2r.31.1f 0=m31.1f 0=m2z.31.1f 0=m31.6qd.37 0=m31.6qd.37.1e 0=m34.2p
  0=m2z.34.2p 0=m31.34.2p 0=m2v.34.2p 0=m36.2p.2s 0=m36.2p.2s.6qd.37 0=m36.2p.2s.6qd.37.1e
  0=m34.37 0=m32.37 0=mqk.37 0=m31.37 0=m34.3a 0=m32.3a 0=mqk.3a 0=m31.3a 0=m2z.3a 0=m31.3a
  0=m34.3b 0=m32.3b 0=mqk.3b 0=m31.3b 0=m2z.3b 0=m31.3b 0=m2z.qx 0=m31.qx 1=m2q.35 0=m2r.2r
  0=m2r.2s 0=m2r.6qd.2z.2v 1=m2s.2q 0=m2v.3d 0=m2w.2p 0=m2w.34 0=m2x.32 0=m2z.2z 0=m2z.31 0=m2z.38
  0=m30.31 0=m30.32 0=m30.33.2v 0=m30.3c 0=m31.2q 0=m31.2x.30 0=m31.33.30 0=m34.2w 1=m34.34.31
  0=m34.36 0=m37.36 0=m37.3a 0=m3b.2q 0=m3a.6qd.31 0=m2p.6qd.31 0=m1d.k4l 0=m1e.k4l 0=m1f.k4l
  0=m1g.k4l 0=m1h.k4l 0=m1i.k4l 0=m1j.k4l 0=m1k.k4l 0=m1l.k4l 0=m1d.1c.k4l 0=m1d.1d.k4l
  0=m1d.1e.k4l 0=m1d.1f.k4l 0=m1d.1g.k4l 0=m1d.1h.k4l 0=m1d.1i.k4l 0=m1d.1j.k4l 0=m1d.1k.k4l
  0=m1d.1l.k4l 0=m1e.1c.k4l 0=m1e.1d.k4l 0=m1e.1e.k4l 0=m1e.1f.k4l 0=m1e.1g.k4l 0=m1e.1h.k4l
  0=m1e.1i.k4l 0=m1e.1j.k4l 0=m1e.1k.k4l 0=m1e.1l.k4l 0=m1f.1c.k4l 0=m1f.1d.k4l 0=m2v.2p.30
  0+m8d=v 3+1j=v 9+9o=v k+1a=p 0+i=v 0+s=p 0=tw2a 0=tw29 0+2i=v 8+y=v 0+e=p 0+2=v 0+1q=p 0=t1
  0+8=v 0+4=p 0=tr9g 0+a=p 0+3=v 0=s1 0=v 0=twmg 0+2=v 0+4=p 0+2=v 0+k=p 0=twn8 0=twnj 0=twnf
  0=twn5 0=twn8 0=v 0=twlu 0=twmi 0=twlx 0=sps 0+g=p 0=t1c 0=twn7 0=traw 0+4=p 0=two7 0+g=p 0=twu9
  k=tx32 0=tx3j 0=tx3h 0=tx37 0=s1 0+2=v 0=twy9 0=twx2 0+1f=v 3+a=v 6+1k=v 8+1y=v 8+c=v 6+38=v
  b+u=v 3+26=v 1+b=v 4+x=v 1+1j=v 9+e=v 2+a=v 2+2v=v o+s=v a+6=v 2+6=v 2+6=v 9+7=v 1+7=v 1+18=v
  0=ttx 0=t12 0=txdf 0=td 0+9=v 0=txcs 0+2=v 4+28=ttzk 0+1a=v 2+a=v 6+8mc=v c+n=v 4+1d=v 6is=tlh4
  0=tsul 0=tkzc 0=tldn 0=trar 0=txqr 0=twm9 0=thnv 0=thnw 0=tvjs 0=tke1 0=twas 0=tvk4 0=ttuf
  0=tpt1 0=to0a 0=tmoh 0=tmdz 0=tm56 0=tkn8 0=ts9e 0=trne 0=tqwt 0=tqbd 0=tn2z 0=tkhb 0=tisp
  0=txp5 0=twpz 0=ts2h 0=tqo3 0=tmpe 0=thz6 0=tus1 0=tr3r 0=tms6 0=tm2o 0=ttp8 0=tnke 0=tmbs
  0=tuhq 0=tsuq 0=trls 0=tqi7 0=tkm6 0=txif 0=tx2v 0=twup 0=ttbg 0=ts4e 0=tqoy 0=tpqk 0=tnxv
  0=tmr3 0=tmoq 0=tl6w 0=tjd2 0=tiiy 0=ti0w 0=tpf3 0=tp8d 0=tof1 0=tn79 0=tk6z 0=thxd 0=tlt7
  0=tvoj 0=tugv 0=too4 0=tnuv 0=tqn8 0=tpdp 0=tlfq 0=tjf6 0=tvoy 0=tuzt 0=tsah 0=trjn 0=trb3
  0=toio 0=tobd 0=tjk6 0=tww0 0=tnuw 0=tx2w 0=tx3d 0=tp4q 0=toex 0=tn6v 0=tjj8 0=tlp6 0=ttqk
  0=tsbe 0=tlsv 0=txt1 0=tv3s 0=tua6 0=tqfu 0=tq2a 0=twuk 0=tpd5 0=txie 0=tud9 0=txui 0=trrw
  0=tt81 0=tojs 0=twq0 0=tvta 0=tprg 0=tn51 0=tlvp 0=trzq 0=tkw1 0=tru2 0=ttpx 0=tnf3 0=ttlh
  0=tq35 0=txqh 0=tx73 0=tx4g 0=tsmx 0=tolw 0=tnil 0=tluz 0=tkhb 0=twwa 0=twn2 0=tvm6 0=tuja
  0=tt6m 0=tr5y 0=tpcr 0=tjq1 0=tisd 0=thyp 0=thx7 0=twz3 0=tszp 0=ts2d 0=tkyz 0=tumy 0=tu0v
  0=ttxs 0=ttfb 0=trcf 0=tqx6 0=tqa3 0=tp8r 0=tof6 0=tnxk 0=tl0y 0=tn1n 0=tktz 0=tk7l 0=tx39
  0=twze 0=twkh 0=tr13 0=tmam 0=tlx3 0=tul5 0=tucu 0=ttnt 0=ts1j 0=tors 0=tqia 0=txqc 0=tw4w
  0=tv5v 0=tusx 0=tuc0 0=tqgr 0=tqbp 0=to45 0=tnze 0=tkfx 0=tji4 0=tjfv 0=tja4 0=txm2 0=tpag
  0=tkjn 0=tjk0 0=tu6w 0=txtg 0=txcx 0=tv66 0=tv3y 0=tt9h 0=tse5 0=tquq 0=tpz3 0=tn2e 0=tksn
  0=thtj 0=tt31 0=tjo8 0=tx1a 0=tswd 0=tst2 0=trrd 0=trhr 0=tqf7 0=tq5w 0=tpk3 0=ton3 0=tj8y
  0=tx9g 0=ttyc 0=tjmj 0=txih 0=tuyk 0=trn0 0=tl2l 0=tuh9 0=tu51 0=tssj 0=tqj8 0=tjme 0=tx4k
  0=twr3 0=tv3u 0=tt71 0=tsyb 0=tsoq 0=trum 0=tqfy 0=tq2r 0=to6l 0=tmc8 0=tmbr 0=tkkd 0=tjk8
  0=twx8 0=trhu 0=twr4 0=tqvy 0=tqc7 0=tmwm 0=tjm6 0=tihn 0=ti1g 0=tswt 0=troq 0=tnpq 0=tp4c
  0=tp20 0=torr 0=tqpm 0=tr4y 0=tlus 0=txtp 0=tngo 0=tx51 0=tx6h 0=tuor 0=ttv3 0=toq5 0=tvb3
  0=trtz 0=tt3m 0=tl3g 0=tmgs 0=tjp8 0=tm7z 0=tuns 0=txcc 0=twgd 0+2=v 0=tvxy 0=v 0=tt5q 0+2=v
  0=tx87 0=tqng 0=tpxp 0=tpgc 0=tpff 0=tpf9 0=tpe4 0=tjie 0=torj 0=to69 0=v 0=tmxa 0=v 0=tlyi
  0+2=v 0=tkx9 0=tkrt 0+3=v 0=tj7f 0=tj73 0=tj5w 0=ti9l 0=tksw 0=tjnc 0=txoi 0=txfu 0=txd1 0=tx2i
  0=tx1s 0=twys 0=twih 0=twfl 0=twcw 0=tvzt 0=tvwy 0=tv6f 0=tv66 0=tucp 0=tu6u 0=tu5t 0=tu32
  0=ttf6 0=ttb4 0=tt6a 0=tssf 0=trta 0=tros 0=trhh 0=tr16 0=tqvy 0=tqi0 0=tpmi 0=tphq 0=tphg
  0=tphi 0=tphb 0=tph6 0=tph0 0+2=tpfp 0=tpas 0=tp90 0=tp06 0=tokj 0=tojz 0=toig 0=toa0 0=to5y
  0=tnsf 0=tnok 0=tnol 0=tnbc 0=tmds 0=tma3 0=tm01 0=tlyi 0=tln5 0=tllp 0=tl2o 0=tkz3 0=tjnp
  0=tjfu 0=tje7 0=tueu 0=s1sw2 0=tnrp 2=ty16 0=txbw 0=txe2 0=txrn 0=txf3 0=txdh 0=tx4f 0=tx31
  0=twkb 0=twmc 0=twkh 0=twih 0=tw0y 0=tvyi 0=tvui 0=tvu3 0=tvmm 0=tvh5 0=tur4 0=tuqy 0=tumz
  0=tul4 0=tucu 0=tu9l 0=tubk 0=tu7v 0=tu96 0=tu55 0=tu3c 0=tts9 0=ttpu 0=ttod 0=tth6 0=tt99
  0=tt4r 0=tt4o 0=tt32 0=ts9o 0=ts7w 0=trx2 0=trlp 0=trm6 0=trjs 0=trct 0=tr3i 0=tpva 0=tqy1
  0=tquo 0=tqra 0=tqi8 0=tqe4 0=tqco 0=tq6f 0=tq6e 0=tq1o 0=tq18 0=tq0k 0=tpy7 0=tpyi 0=tpnj
  0=tpa3 0=tp2l 0=toxf 0=tor8 0=ton0 0=todv 0=to8d 0=tnkx 0=tngl 0=tmrg 0=tmet 0=tmcx 0=tmci
  0=tm4a 0=tm2q 0=tm40 0=tm2j 0=tm2n 0=tm35 0=tm12 0=tlyu 0=tlo9 0=tl8q 0=tl01 0=tkrv 0=tklr
  0=tjt6 0=tjqc 0=tjn6 0=tjji 0=tjij 0=tji8 0=tjgx 0=tiwr 0=ti0i 0=s1njv 0=s1njo 0=s1ptw 0=t11rp
  0=t10vv 0=t10uz 0=s1vuc 0=s1xx6 0=s24n0 0=ti39 0=ti17 12=m2u.2u 0=m2u.2x 0=m2u.30 0=m2u.2u.2x
  0=m2u.2u.30 0=m37.38 0=m37.38 c=m12s.12u 0=m12s.12d 0=m12s.12j 0=m132.12u 0=m12s.12l 5=m15l.14k
  0=v 0=m16a.14n 0=t1cfy 0=t1cgh 0+2=t1cgf 0+3=t1cg9 0=t1cfz 0=t1cfy 0=t1dku 0=m161.14x 0=m161.14y
  0=m161.14s.14x 0=m161.14s.14y 0=m15c.14n 0=m15c.14o 0=m15c.14s 0=m15d.14s 0=m15e.14s 0=m15f.14s
  0=m15g.14s 0=m15h.14s 0=m15i.14s 1=m15k.14s 0=m15l.14s 0=m15m.14s 0=m15n.14s 0=m15o.14s
  1=m15q.14s 1=m15s.14s 0=m15t.14s 1=m15v.14s 0=m15w.14s 1=m15y.14s 0=m15z.14s 0=m160.14s
  0=m161.14s 0=m162.14s 0=m15h.14p 0=m15d.14v 0=m15n.14v 0=m15w.14v 0=m15c.15o 0=t1cdb 0=t1cdc
  0=t1cd3 0=t1cd4 0=t1cd5 0=t1cd6 0=t1cd4 0=t1cd5 0=t1cd6 0=t1cd7 0=t1cd6 0=t1cd7 0=t1cd8 0=t1cd9
  0=t1cdg 0=t1cdh 0=t1cdi 0=t1cdj 0=t1cdf 0=t1cdg 0=t1cdh 0=t1cdi 0=t1cdp 0=t1cdq 0=t1cdr 0=t1cds
  0=t1ccm 0=t1ccn 0=t1cco 0=t1ccp 0=t1cco 0=t1ccp 0=t1ccq 0=t1ccr 0=t1cdq 0=t1cdr 0=t1cds 0=t1cdt
  0=t1cdv 0=t1cdw 0=t1cdx 0=t1cdy 0=t1cdw 0=t1cdx 0=t1cdy 0+2=t1cdz 0=t1ce0 0=t1ce1 0=t1ce2
  0=t1cdx 0=t1cdy 0=t1ce0 0=t1ce1 0=t1ce0 0=t1ce1 0=t1ce8 0=t1ce9 0=t1cdu 0=t1cdv 0=t1ce3 0=t1ce4
  0=t1cdh 0=t1cdi 0=t1cdj 0=t1cdk 0=t1cdf 0=t1cdg 0=t1cdh 0=t1cdi 0=t1cdf 0=t1cdg 0=t1cdh 0=t1cdi
  0=t1cdl 0=t1cdm 0=t1cdn 0=t1cdo 0=t1cdg 0+2=t1cdh 0=t1cdi 0=t1cdj 0=t1cdk 0=t1cdg 0+2=t1cdh
  0=t1cdi 0=t1cdj 0=t1cdk 0=t1cdo 0=t1cdp 0=t1cdq 0=t1cdr 0=t1cd8 0+2=t1cd9 0=t1cda 0+x=v 0=t1cfa
  0=t1cfb 0=t1cfc 0=t1cfd 0=t1ceo 0=t1cep 0=t1cer 0=t1ces 0=t1cer 0=t1ces 0=m1c7.19w 0=t1cer
  0=t1ces 0=t1cez 0=t1cf0 0=t1cex 0=t1cey 0=t1ces 0=t1cet 0=t1ceu 0=t1cev 0=t1cin 0=t1cio
  0=m17q.17r 0=m17q.17r 0=m17q.1cl 0=m17q.1cl 0=m17q.18o 0=m17q.18o 0=m17q.1c7 0=m17q.1c7
  0=m17q.1c6 0=m17q.1c6 0=m17q.1c8 0=m17q.1c8 0=m17q.1cg 0=m17q.1cg 0=m17q.1cg 0=m17q.18p
  0=m17q.18p 0=m17q.18p 0=t1cfk 0=t1cfl 0=t1cfm 0=t1cfn 0=m17q.17w 0=m17q.17x 0=m17q.18l
  0=m17q.18p 0=m17q.18q 0=m17s.17w 0=m17s.17x 0=m17s.17y 0=m17s.18l 0=m17s.18p 0=m17s.18q
  0=m17u.17w 0=m17u.17x 0=m17u.17y 0=m17u.18l 0=m17u.18p 0=m17u.18q 0=m17v.17w 0=m17v.18l
  0=m17v.18p 0=m17v.18q 0=m17w.17x 0=m17w.18l 0=m17x.17w 0=m17x.18l 0=m17y.17w 0=m17y.17x
  0=m17y.18l 0=m183.17w 0=m183.17x 0=m183.17y 0=m183.18l 0=m185.17x 0=m185.18l 0=m186.17w
  0=m186.17x 0=m186.17y 0=m186.18l 0=m187.17x 0=m187.18l 0=m188.18l 0=m189.17w 0=m189.18l
  0=m18a.17w 0=m18a.18l 0=m18h.17w 0=m18h.17x 0=m18h.17y 0=m18h.18l 0=m18h.18p 0=m18h.18q
  0=m18i.17x 0=m18i.18l 0=m18i.18p 0=m18i.18q 0=m18j.17r 0=m18j.17w 0=m18j.17x 0=m18j.17y
  0=m18j.18k 0=m18j.18l 0=m18j.18p 0=m18j.18q 0=m18k.17w 0=m18k.17x 0=m18k.17y 0=m18k.18l
  0=m18k.18p 0=m18k.18q 0=m18l.17w 0=m18l.17x 0=m18l.17y 0=m18l.18l 0=m18l.18p 0=m18l.18q
  0=m18m.17w 0=m18m.17x 0=m18m.17y 0=m18m.18l 0=m18m.18p 0=m18m.18q 0=m18n.17w 0=m18n.18l
  0=m18n.18p 0=m18n.18q 0=m18q.17w 0=m18q.17x 0=m18q.17y 0=m18q.18l 0=m18q.18p 0=m18q.18q
  0=m180.19s 0=m181.19s 0=m18p.19s 0=mw.18s.18x 0=mw.18t.18x 0=mw.18u.18x 0=mw.18v.18x
  0=mw.18w.18x 0=mw.18x.19s 0=m17q.181 0=m17q.182 0=m17q.18l 0=m17q.18m 0=m17q.18p 0=m17q.18q
  0=m17s.181 0=m17s.182 0=m17s.18l 0=m17s.18m 0=m17s.18p 0=m17s.18q 0=m17u.181 0=m17u.182
  0=m17u.18l 0=m17u.18m 0=m17u.18p 0=m17u.18q 0=m17v.181 0=m17v.182 0=m17v.18l 0=m17v.18m
  0=m17v.18p 0=m17v.18q 0=m18h.18p 0=m18h.18q 0=m18i.18p 0=m18i.18q 0=m18j.17r 0=m18j.18k
  0=m18j.18l 0=m18j.18p 0=m18j.18q 0=m18k.18l 0=m18k.18p 0=m18k.18q 0=m18l.17r 0=m18l.18l
  0=m18m.181 0=m18m.182 0=m18m.18l 0=m18m.18m 0=m18m.18p 0=m18m.18q 0=m18p.19s 0=m18q.181
  0=m18q.182 0=m18q.18l 0=m18q.18m 0=m18q.18p 0=m18q.18q 0=m17q.17w 0=m17q.17x 0=m17q.17y
  0=m17q.18l 0=m17q.18n 0=m17s.17w 0=m17s.17x 0=m17s.17y 0=m17s.18l 0=m17s.18n 0=m17u.17w
  0=m17u.17x 0=m17u.17y 0=m17u.18l 0=m17u.18n 0=m17v.18l 0=m17w.17x 0=m17w.18l 0=m17x.17w
  0=m17x.18l 0=m17y.17w 0=m17y.18l 0=m183.17w 0=m183.17x 0=m183.17y 0=m183.18l 0=m185.17x
  0=m185.17y 0=m185.18l 0=m186.17w 0=m186.17x 0=m186.17y 0=m186.18l 0=m187.17x 0=m188.18l
  0=m189.17w 0=m189.18l 0=m18a.17w 0=m18a.18l 0=m18h.17w 0=m18h.17x 0=m18h.17y 0=m18h.18l
  0=m18i.17x 0=m18i.18l 0=m18j.17w 0=m18j.17x 0=m18j.17y 0=m18j.18k 0=m18j.18l 0=m18k.17w
  0=m18k.17x 0=m18k.17y 0=m18k.18l 0=m18k.18n 0=m18l.17w 0=m18l.17x 0=m18l.17y 0=m18l.18l
  0=m18m.17w 0=m18m.17x 0=m18m.17y 0=m18m.18l 0=m18m.18n 0=m18n.17w 0=m18n.18l 0=m18n.19s
  0=m18q.17w 0=m18q.17x 0=m18q.17y 0=m18q.18l 0=m18q.18n 0=m17q.18l 0=m17q.18n 0=m17s.18l
  0=m17s.18n 0=m17u.18l 0=m17u.18n 0=m17v.18l 0=m17v.18n 0=m183.18l 0=m183.18n 0=m184.18l
  0=m184.18n 0=m18j.18k 0=m18j.18l 0=m18k.18l 0=m18m.18l 0=m18m.18n 0=m18q.18l 0=m18q.18n
  0=m18g.18u.18x 0=m18g.18v.18x 0=m18g.18w.18x 0=m187.18p 0=m187.18q 0=m189.18p 0=m189.18q
  0=m18a.18p 0=m18a.18q 0=m183.18p 0=m183.18q 0=m184.18p 0=m184.18q 0=m17x.18p 0=m17x.18q
  0=m17w.18p 0=m17w.18q 0=m17y.18p 0=m17y.18q 0=m185.18p 0=m185.18q 0=m186.18p 0=m186.18q
  0=m184.17w 0=m184.17x 0=m184.17y 0=m184.18l 0=m184.181 0=m183.181 0=m185.181 0=m186.181
  0=m187.18p 0=m187.18q 0=m189.18p 0=m189.18q 0=m18a.18p 0=m18a.18q 0=m183.18p 0=m183.18q
  0=m184.18p 0=m184.18q 0=m17x.18p 0=m17x.18q 0=m17w.18p 0=m17w.18q 0=m17y.18p 0=m17y.18q
  0=m185.18p 0=m185.18q 0=m186.18p 0=m186.18q 0=m184.17w 0=m184.17x 0=m184.17y 0=m184.18l
  0=m184.181 0=m183.181 0=m185.181 0=m186.181 0=m184.17w 0=m184.17x 0=m184.17y 0=m184.18l
  0=m183.18n 0=m184.18n 0=m187.18l 0=m183.17w 0=m183.17x 0=m183.17y 0=m184.17w 0=m184.17x
  0=m184.17y 0=m187.18l 0=m188.18l 0=m17r.18r 0=m17r.18r 0+i=v 0=m17u.17w.18l 0=m17u.17x.17w
  0=m17u.17x.17w 0=m17u.17x.18l 0=m17u.17y.18l 0=m17u.18l.17w 0=m17u.18l.17x 0=m17u.18l.17y
  0=m17w.18l.17x 0=m17w.18l.17x 0=m17x.18l.18q 0=m17x.18l.18p 0=m183.17x.17w 0=m183.17w.17x
  0=m183.17w.18p 0=m183.18l.17x 0=m183.18l.17x 0=m183.18l.17w 0=m183.18l.18l 0=m183.18l.18l
  0=m185.17x.17x 0=m185.17x.17x 0=m185.18l.18l 0=m184.17x.18l 0=m184.17x.18l 0=m184.17w.18q
  0=m184.18l.17y 0=m184.18l.17y 0=m184.18l.18l 0=m184.18l.18l 0=m186.17x.18p 0=m186.17y.18l
  0=m186.17y.18l 0=m187.18l.17x 0=m187.18l.17x 0=m187.18l.18l 0=m187.18l.18q 0=m189.17w.18l
  0=m189.18l.18l 0=m189.18l.18l 0=m189.18l.18p 0=m18a.18l.18l 0=m18a.18l.18q 0=m18a.18l.18p
  0=m18h.17y.18l 0=m18h.17y.18l 0=m18i.18l.17x 0=m18i.18l.18l 0=m18k.17x.18l 0=m18k.17x.18q
  0=m18k.17x.18p 0=m18k.17w.17w 0=m18k.17w.17w 0=m18k.17y.18l 0=m18k.17y.18l 0=m18k.18l.17x
  0=m18k.18l.17x 0=m18l.17x.17w 0=m18l.17x.18l 0=m18l.17x.18q 0=m18l.17w.17x 0=m18l.17w.18l
  0=m18l.17y.17w 0=m18l.17y.18l 0+2=v 0=m18l.17w.17y 0=m18n.18l.17w 0=m18n.18l.18l 0=m18m.17x.18l
  0=m18m.17x.18p 0=m18m.17w.18l 0=m18m.17w.18l 0=m18m.17w.18p 0=m18m.18l.18q 0=m18m.18l.18p
  0=m18q.18l.18l 0=m18q.18l.18l 0=m17s.17y.18q 0=m17u.17w.18q 0=m17u.17w.18p 0=m17u.17y.18q
  0=m17u.17y.18p 0=m17u.18l.18q 0=m17u.18l.18p 0=m17w.18l.18q 0=m17w.17x.18p 0=m17w.18l.18p
  0=m183.17y.18p 0=m185.17x.18q 0=m184.17x.18q 0=m186.17x.18q 0=m18k.17w.18q 0=m18k.18l.18q
  0=m18q.17x.18q 0=m18q.17w.18q 0=m18q.18l.18q 0=m18l.18l.18q 0=m18i.18l.18q 0=m18m.17x.18q
  0=m18i.18l.17x 0=m18k.17x.18l 0=m189.18l.18q 0=m18j.18l.18q 0=m18m.17w.17x 0=m18l.17y.18q
  0=m18k.17w.18l 0=m18j.18l.18l 0=m18k.17w.18l 0=m18m.17w.17x 0=m17w.17x.18q 0=m17x.17w.18q
  0=m18l.17w.18q 0=m18h.18l.18q 0=m17s.17x.18q 0=m18j.18l.18l 0=m189.17w.18l 0=m185.18l.18l
  0=m183.17y.18q 0=m18m.17w.18q 0+8=v w=m185.18k.1ci 0=m18i.18k.1ci 0=m17r.18k.18k.18n
  0=m17r.18j.17s.181 0=m18l.17x.18l.17z 0=m185.18k.189.18l 0=m181.183.18o.18k 0=m189.18k.18q.18n
  0=m18o.183.18k.18l 0=m185.18k.18p
  0=m185.18k.18p.w.17r.18k.18k.18n.w.189.18k.18q.18n.w.18o.183.18k.18l
  0=m17w.18k.w.17w.18k.17r.18k.18n 0=m181.1cc.17r.18k 0+3=v 0+g=i 0=t1e5g 0=t14pc 1+2=t1e55
  0=t1e5w 0=t1e53 0+2=t14ox 7+g=v 1=t17vh 0=t17vj 0=t1e50 0=t1e51 0+2=t1e6l 0=t1e4c 0=t1e4b
  0+2=t14px 0+2=t14q3 0+2=t14qb 0+2=t14qf 0+4=t14qd 0+2=v 0=t1e5o 0=t1e5n 0=mw.lh 0=mw.lh 0=mw.lh
  0=mw.lh 0=t1e5q 0=t1e5r 0=t1e5s 0=t1e78 0=t14r4 2=t1e6x 0=t1e6z 0=t1e6v 0=t1e7q 0=t17wk
  0+2=t1e7l 0=t1e5c 0=t1e5b 0+2=t14qx 0=t1e7w 0=t1e7u 0+2=t1e7r 0=t1e7q 0=t1e7c 0=t1e7b 0=t1e7d
  1=t1e6k 0+2=t1e85 0=t1e7f 4=mw.18r 0=m18g.18r 0=mw.18s 0=v 0=mw.18t 1=mw.18u 0=m18g.18u 0=mw.18v
  0=m18g.18v 0=mw.18w 0=m18g.18w 0=mw.18x 0=m18g.18x 0=mw.18y 0=m18g.18y 0+2=t1d27 0+2=t1d28
  0+2=t1d29 0+2=t1d2a 0+2=t1d2b 0=t1d2c 0=t1d2d 0+2=t1d2e 0+2=t1d2f 0=t1d2g 0=t1d2h 0+2=t1d2i
  0+2=t1d2j 0=t1d2k 0=t1d2l 0+2=t1d2m 0=t1d2n 0=t1d2o 0+2=t1d2p 0=t1d2q 0=t1d2r 0+2=t1d2s 0=t1d2t
  0=t1d2u 0+2=t1d2v 0=t1d2w 0=t1d2x 0+2=t1d2y 0+2=t1d2z 0+2=t1d30 0+2=t1d31 0+2=t1d32 0=t1d33
  0=t1d34 0+2=t1d35 0=t1d36 0=t1d37 0+2=t1d38 0=t1d39 0=t1d3a 0+2=t1d3b 0=t1d3c 0=t1d3d 0+2=t1d3e
  0=t1d3f 0=t1d3g 0+2=t1d3h 0=t1d3i 0=t1d3j 0+2=t1d3k 0=t1d3l 0=t1d3m 0+2=t1d3n 0=t1d3o 0=t1d3p
  0=t1d3q 0=t1d3k 0=t1d3l 0=t1d3m 0+2=t1d3n 0=t1d3o 0=t1d3p 0+2=t1d3q 0=t1d3r 0=t1d3s 0+2=t1d3t
  0=t1d3u 0=t1d3v 0+2=t1d3w 0=t1d3x 0=t1d3y 0+2=t1d3z 0=t1d40 0=t1d41 0+2=t1d42 0=t1d43 0=t1d44
  0+2=t1d45 0+2=t1d46 0+2=t1d47 0=t1d48 0=t1d49 0=t1d4a 0=m18k.17m 0=m18k.17m 0=m18k.17n
  0=m18k.17n 0=m18k.17p 0=m18k.17p 0=m18k.17r 0=m18k.17r 2=i 1+w=t1ecg 0+q=t1ebk 0+10=t1ecg
  0+2=t168q 0=t1eer 0+2=t14ye 0=t14yr 0=t14ru 0=t14s4 0=t14ue 0=t14ud 0=t14uc 0=t14ub 0=t14ua
  0=t14sp 0=t14so 0=t14sn 0=t14to 0=t14s4 0=t14un 0=t14um 0=t14ul 0=t14uk 0+2=t14uj 0=t14ui
  0=t14uh 0=t14ug 0=t14uf 0=t14ue 0=t14ud 0=t14uc 0=t14ub 0=t14ua 0=t14u9 0=t14u8 0=t14u6 0=t14u5
  0=t14u4 0+6=t14u3 0=t14u1 0=t14tz 0=t14tx 0=t14tv 0+5=t14tt 0=t14ts 0=t14tr 0+6=t14tq 0=t14tp
  0=t14tm 0+2=t14w5 0=i 0+2=t1b4x 0=t1b09 0=t1b4y 0+2=t1b09 0+3=t1b50 0+6=t1b0a 0=t1b4m 0+3=t1b57
  0=t1b4j 0+a=t1b58 3+6=t1b35 2+6=t1b37 2+6=t1b39 2+3=t1b3b 3+2=t1ef2 0=t1eeu 0=mw.lg 0=t1ef2
  0=t1ef4 0=t183h 1=t178m 0+4=t17x5 0=t174d 0=t1737 h+c=v 1+q=v 1+j=v 1+2=v 1+f=v 2+e=v y+3f=v
  5+3=v 4+19=v 3+2g=v 1+d=v 3=v 1b+1a=v 3m+t=v 3+1d=v f+s=v 4+10=v 9+u=v 5+17=v 5+u=v 1+11=v 4+e=v
  16+14=s14 0+3a=v 2+a=v 6+10=s14 4+10=v 4+14=v 8+1g=v b=v 0+b=s13 1+f=s13 1+7=s13 1+2=s13 1+b=v
  1+f=v 1+7=v 1+2=v 3+1g=v c+8n=v 9+m=v a+8=v o=v 0+2=t1fht 0=t1fvh 0=t1fjf 0=t1fle 1=t1fj8 0=ti76
  0=t1fj8 0=t1fja 0+2=t1flh 0=t1a7w 0=t1fli 0=t1fld 0=t1fjb 0=t1fl9 0=t1flc 0=t1flf 0=t1fjt
  0=t1fu6 0=t1fju 0=t1flc 0=t1fkk 0+2=t1fjj 0=t1flb 0=s16js 0=tiz3 0=t1flc 0=s16jq 0=t1fki 0=s16jp
  0=t1fvu 0+2=t1fl9 0=t1fzo 0=t1fl8 0=s16jl 0+2=t1fl7 0=t1fl6 0=t1fk3 0=t1fk6 0=ti86 0=t1fk7
  0=t1fl3 0=t17b3 1=t1fkz 0+2=t1fki 0=t1fkt 0+3=t1fqu 0=s16j5 0=s16jo 1x+6=v 2=v 1+18=v 1+2=v 3=v
  2+n=v 1+20=v 8+9=v 1c+j=v 1+2=v 5+x=v 3+r=v 5+r=v 12+1k=v 4+k=v 2+1e=v 1+2=v 5+8=v 1+3=v 1+t=v
  2+3=v 4+a=v 7+9=v 7+1s=v w+13=v 4+c=v 9+1i=v 3+t=v 2+r=v 5+q=v 7+4=v c+7=v 28+21=v 1j+1f=s1s
  d+1f=v 7+1a=v 8+a=v 6+g=v 0+m=sw 3+t=v 8+2=v 5s+v=v 1+16=v 1+3=v 2+2=v g+6=v 8+9=v x+1a=v 8+16=v
  m+q=v 12+s=v k+n=v 9+26=v 4+10=v 9+1q=v 1+5=v d+p=v 7+a=v 6+1h=v 1+i=v 8+13=v 9+2o=v 1+k=v b+i=v
  1+1b=v 1q+7=v 1=v 1+4=v 1+f=v 1+b=v 6+1n=v 5+a=v 6+4=v 1+8=v 2+2=v 2+m=v 1+7=v 1+2=v 1+5=v 1+a=v
  2+2=v 2+3=v 2=v 6=v 5+7=v 2+7=v 3+5=v b+a=v 1=v 2=v 1+12=v 1+a=v 1=v 2=v 1+4=v 1+a=v 1+2=v 8+2=v
  t+2k=v 1+5=v u+20=v 8+a=v 4m+1i=v 2+12=v y+1x=v b+a=v 6+d=v j+1m=v 6+a=v 6+k=v s+r=v 2+f=v 4+n=v
  55+1o=v 2s+w=sw 0+1f=v c+8=v 2=v 2+8=v 1+2=v 1+u=v 1+2=v 2+c=v 9+a=v 1y+8=v 2+1a=v 2+b=v r+20=v
  8+2b=v d+21=v 7+a=v 2e+8=v 2g+y=v e+a=v 6+9=v 1+19=v 1+e=v a+t=v 3+w=v 2+m=v 1+e=v 21+7=v 1+2=v
  1+18=v 3=v 1+2=v 1+9=v 8+a=v 6+6=v 1+2=v 1+11=v 1+2=v 1+6=v 7+a=v 6+18=v 4+a=v 6u+p=v 7+h=v
  1+15=v 3+t=v 2d=v f+1e=v d+pn=v 2u+33=v 1+5=v b+5g=v 218+2r=v d+ts=v g+m=v a+32z=v 5+g7=v
  5a1+1m=v 1c6+ft=v 7+v=v 1+a=v 4+29=v 1+a=v 6+u=v 2+6=v a+1y=v a+a=v 1+7=v 1+l=v 5+j=v c0+1m=v
  5i+w=sw 0+1n=v 5+p=sr 2+p=v 18+23=v 4+1l=v 7+h=v 1s+5=v b+7=v 9+5p2=v 15+w=v 2p+37=v 6pp+4=v
  1+7=v 1+2=v 1+83=v f=v t+3=v 2=v e+4=v 8+b0=v 1s4+2z=v 5+d=v 3+9=v 7+a=v 2+4=v 0+4=i 318+5y=v
  0+q=t2iyd 0+a=t2j0g 0+3=v 3+c4=v 6+n=v f+h=v f+1a=v 2+n=v 9+38=v 1o+6u=v a+13=v 2+1h=v
  0=m2jx3.2jxh 0=m2jx4.2jxh 0=m2jx4.2jxh.2jxq 0=m2jx4.2jxh.2jxr 0=m2jx4.2jxh.2jxs
  0=m2jx4.2jxh.2jxt 0=m2jx4.2jxh.2jxu 0+e=v 0+8=i 0+1s=v 0=m2jzt.2jxh 0=m2jzu.2jxh
  0=m2jzt.2jxh.2jxq 0=m2jzu.2jxh.2jxq 0=m2jzt.2jxh.2jxr 0=m2jzu.2jxh.2jxr 0+16=v l+1y=v 3e+k=v
  c+k=v c+2f=v 9+p=v 3r+q=t2kdb 0+q=t2ke1 0+q=t2ker 0+7=t2kfh 1+i=t2kfh 0+q=t2kg7 0+q=t2kgx
  0=t2khn 1+2=t2khn 2=t2khn 2+2=t2khn 2+4=t2khn 1+8=t2khn 0+4=t2kid 1=t2kid 1+7=t2kid 1+b=t2kid
  0+q=t2kj3 0+q=t2kjt 0+2=t2kkj 1+4=t2kkj 2+8=t2kkj 1+7=t2kkj 1+q=t2kl9 0+2=t2klz 1+4=t2klz
  1+5=t2klz 1=t2klz 3+7=t2klz 1+q=t2kmp 0+q=t2knf 0+q=t2ko5 0+q=t2kov 0+q=t2kpl 0+q=t2kqb
  0+q=t2kr1 0+q=t2krr 0+q=t2ksh 0+q=t2kt7 0+q=t2ktx 0+q=t2kun 0+q=t2kvd 0=t2kqb 0=t2kj2 2+h=t2k8n
  0=t2k8x 0+7=t2k8n 0=t2e9m 0+h=t2k9d 0=t2k9c 0+7=t2k9d 0=t2eah 0=t2k9z 0=t2k9x 0=t2k9w 0=t2k9l
  0=t2k9r 0=t2k9t 0+h=t2ka9 0=t2kaj 0+7=t2ka9 0=t2eb8 0+h=t2kaz 0=t2kay 0+7=t2kaz 0=t2ec3 0=t2kbl
  0=t2kbj 0=t2kbi 0=t2kb7 0=t2kbd 0=t2kbf 0+h=t2kbv 0=t2kc5 0+7=t2kbv 0=t2ecu 0+h=t2kcl 0=t2kck
  0+7=t2kcl 0=t2edp 0=t2kd7 0=t2kd5 0=t2kd4 0=t2kct 0=t2kcz 0=t2kd1 0+h=t2kdh 0=t2kdr 0+7=t2kdh
  0=t2eeg 0+h=t2ke7 0=t2ke6 0+7=t2ke7 0=t2efb 0=t2ket 0=t2ker 0=t2keq 0=t2kef 0=t2kel 0=t2ken
  0+h=t2kf3 0=t2kfd 0+7=t2kf3 0=t2eg2 0+h=t2kft 0=t2kfs 0+7=t2kft 0=t2egx 0=t2kgf 0=t2kgd 0=t2kgc
  0=t2kg1 0=t2kg7 0=t2kg9 0=t2kfh 0=t2kfi 2+a=t2l5q 0+a=t2l60 0+a=t2l6a 0+a=t2l6k 0+a=t2l6u 0+i4=v
  f+5=v 1+f=v uo+v=v 6+6=v 5x+7=v 1+h=v 2+7=v 1+2=v 1+5=v 5+9=t2m0w 0+3=t2m0v 0+b=t2m0u 0=t2m0s
  0+2=t2m0r 0=t1pz5 0=t2lwy 0=t2m0m 0=t2m0l 0=t2lwl 0=t2ly8 0=t2lxd 0+9=t2m1t 0+2=t2m1s 0+2=t2m1q
  0=t2m1p 0+6=t2m1o 0+2=t2m1n 0=t2lzq 0=t2m1e 0=t2m1g 0=t2m17 0=t2lz4 0=t1q1n 0=t2lz0 x=v 34+19=v
  3+e=v 2+a=v 4+2=v 8w+v=v h+1m=v 5=v cw+16=v 5y+17=v 4=v 5c+v=v 1+m=v 8+2=v 68+7=v 1+4=v 1+2=v
  1+f=v 1+5h=v 2+g=v 15+y=sy 0+16=v 4+a=v 4+2=v lt+1w=v 24+1p=v 5e+2=t2od5 0=t2od2 0=t2od0 1=t2ocd
  0=t2od0 0=t2od6 0=t2ocx 0=t2ocf 0+4=t2ocn 0=t2od7 0=t2od2 0=t2ocv 0=t2od8 0=t2ocw 0=t2ode
  0=t2odc 0+2=t2odn 0=t2odl 0=t2odk 0=t2odf 0=t2ode 0=t2odd 0=t2oby 0=t2o9v 0=t2oal 0=t2oc0
  1=t2oe1 0=t2ody 1=t2od9 2=t2oe2 1=t2odb 0+4=t2odj 0=t2oe3 0=t2ody 0=t2odr 0=t2oe4 0=t2ods
  1=t2oe8 0+2=t2oej 0=t2oeh 1=t2oeb 1=t2oe9 6=t2oeu 4=t2oey 1=t2oe7 1=t2oef 1=t2oef 0=t2oez
  0=t2oeu 1=t2of0 0=t2oeo 1=t2of4 2=t2ofd 1=t2of7 1=t2of5 1=t2obn 1=t2ods 1=t2oft 0=t2ofq 1=t2of1
  2=t2ofu 0=t2ofl 0=t2of3 0=t2ofb 1+2=t2ofb 0=t2ofv 0=t2ofq 0=t2ofj 0=t2ofw 0=t2ofk 1=t2og0
  0+2=t2ogb 0=t2og9 1=t2og3 0=t2og2 0=t2og1 0=t2oem 1=t2od9 1+2=t2ogp 0=t2ogm 0=t2ogk 0+2=t2ofx
  0=t2ogk 0=t2ogq 0=t2ogh 0=t2ofz 1+3=t2og7 0=t2ogr 0=t2ogm 0=t2ogf 0=t2ogs 0=t2ogg 0=t2ogy
  0=t2ogw 0+2=t2oh7 0=t2oh5 0=t2oh4 0=t2ogz 0=t2ogy 0=t2ogx 5=t2ohl 0=t2ohi 0=t2ohg 1=t2ogt
  0=t2ohg 0=t2ohm 0=t2ohd 0=t2ogv 1+3=t2oh3 0=t2ohn 0=t2ohi 0=t2ohb 0=t2oho 0=t2ohc 0=t2ohu
  0=t2ohs 0+2=t2oi3 0=t2oi1 0=t2oi0 0=t2ohv 0=t2ohu 0=t2oht 1g+2=v 7i+18=v 4+2s=v c+f=v 2+f=v
  1+f=v 1+11=v b=m1c.18 0=m1d.18 0=m1e.18 0=m1f.18 0=m1g.18 0=m1h.18 0=m1i.18 0=m1j.18 0=m1k.18
  0=m1l.18 0+5=v 0=m14.2p.15 0=m14.2q.15 0=m14.2r.15 0=m14.2s.15 0=m14.2t.15 0=m14.2u.15
  0=m14.2v.15 0=m14.2w.15 0=m14.2x.15 0=m14.2y.15 0=m14.2z.15 0=m14.30.15 0=m14.31.15 0=m14.32.15
  0=m14.33.15 0=m14.34.15 0=m14.35.15 0=m14.36.15 0=m14.37.15 0=m14.38.15 0=m14.39.15 0=m14.3a.15
  0=m14.3b.15 0=m14.3c.15 0=m14.3d.15 0=m14.3e.15 0=m9hw.37.9hx 0=t2q4o 0=t2q4a 0=m2r.2s 0=m3b.3e
  0=v 0+q=t2q4v 0=m2w.3a 0=m31.3a 0=m37.2s 0=m37.37 0=m34.34.3a 0=m3b.2r 0+q=v 0=m31.2r 0=m31.2s
  0=m31.36 0+z=v 0=m2s.2y 0+t=v 1k+q=v 0=m9kr.9jf 0=m9mb.9mb 0=t2gr1 d=t26yt 0=t28ca 0=t29ty
  0=t2gr0 0=t2avc 0=t28sb 0=t1z5f 0=t28ry 0=t2aus 0=t267t 0=t241l 0=t26bm 0=t2a4v 0=t27ip 0=t2aa9
  0=t26b3 0=t2a6b 0=t21nj 0=t239f 0=t1ym2 0=t28tw 0=t29rg 0=t24gi 0=t26xe 0=t26s3 0=t2azt 0=t2azl
  0=t1xwh 0=t27uu 0=t2ayo 0=t29tn 0=t26ug 0=t1ygw 0=t26zi 0=t22ep 0=t227t 0=t29t8 0=t24l1 0=t2625
  0=t2627 0=t239h 0=t2a4n 0=t29hg 0=t1xpq 4=m9hw.kdo.9hx 0=m9hw.fex.9hx 0=m9hw.fik.9hx
  0=m9hw.i2x.9hx 0=m9hw.m9l.9hx 0=m9hw.jf7.9hx 0=m9hw.nh3.9hx 0=m9hw.gd9.9hx 0=m9hw.k0n.9hx
  7=t27jt 0=t29uq e+6=v 4a+rd=v 3+h=v 3+d=v 3+62=v 6+c=v 4=v f+c=v 4+1k=v 8+a=v 6+14=v 8+u=v 2+c=v
  4+2=v e+9=v 13+9k=v 8+e=v 2+d=v 3+b=v 3+1l=v 1=v 4+g=v 2+c=v 4+a=v 7+43=v 1+2k=v 0+a=t2sao 0=v
  sl+wyo=v w+3dq=v 2+4ge=v 2+5rl=v f+ha=v 1wi=t3qo3 0=t3qo9 0=t3qo1 0=t1crl 0=t3qg4 0=t3qdz
  0=t3qdn 0=t3qbp 0=t3q8e 0=t3q7k 0=t3q5f 0=t3q64 0=t3vqm 0=t1brn 0=t3q2p 0=t3q2j 0=t3q24 0=t3q1m
  0=t1bzq 0=t3vq2 0=t3q25 0=t3q14 0=t1byj 0=t3q0w 0=t3q0k 0=t3qkt 0=t3q0e 0=t3q06 0=tk71 0=t3pyg
  0=t3py3 0=t3vpc 0=t3pwl 0=t3pwb 0=t3pv4 0=t3pv0 0=t3vnz 0=t3psu 0=t3pst 0=t3ps3 0=t3pri
  0+2=t3pr8 0=t3pqs 0=t3ppf 0=t3pp8 0=t3pp0 0=t3poc 0=t3po3 0=t3po2 0=t3po3 0=t3po4 0=t1b0o
  0=t3jyd 0=t3pm4 0=t3plk 0=t1as5 0=t3pla 0=t3pl5 0=t3pkl 0=t3pge 0=t3pj9 0=t3piu 0=t3phz 0=t3pge
  0=t3pe3 0=t3pde 0=t3pbk 0=t3pb5 0=t3pa9 0=t3paa 0=t3p9q 0=t3p99 0=t3p92 0=t3p8o 0=t3oz9 0=t3p6u
  0=t3oza 0=t3p4t 0=t3p3v 0=t3pzd 0=t3omb 0=t3ouc 0=t3otb 0=t3osn 0=t3owa 0=t3oro 0=t3orq 0=t3ooc
  0=t18xh 0=t3omg 0=t3omc 0=t3oly 0=t3olf 0=t3ol8 0=t3ojh 0=t18l4 0=t18jb 0=t3ofq 0=t3oeg 0=t3oe5
  0=t3ogd 0=t3ocg 0=t3vcp 0=t3vcc 0=t3o81 0=t3o6k 0=t3o6l 0=t17z8 0=t3o2y 0=t3o2e 0=t3o20 0=t3o1p
  0=t17q1 0=t3o1f 0=t3o19 0=t3ndt 0=t3o0j 0=t3v91 0=t3nyv 0=t3nyi 0=t3nw9 0=t3nxp 0=t176f 0=t3nsp
  0=t176f 0=t3nrk 0=t3nro 0=t3nr8 0+2=t3nog 0=t3v4k 0=t3nnr 0=t3nml 0=t3nm1 0=t3nku 0=t3v3a
  0=t16h2 0=t3v2m 0=t3niz 0=t3nix 0=t3niv 0=t3nic 0=tgsd 0=t3ngy 0=t165c 0=t165d 0=t3gk2 0=t3ng2
  0=t3ng3 0=t3v0v 0=t1333 0=ttry 0=t3nef 0=t3ne7 0=t3v08 0=t3ncy 0=t3nbk 0=t3nbb 0=t3nae 0=t3n6n
  0=t3uxz 0=t3uyu 0=t3n67 0=t15g0 0=t3n4u 0=t3n1a 0=t3n17 0=t3n16 0=t3n19 0=t3n00 0=t3mzh 0=t3myi
  0=t3myx 0=t3myn 0=t3mxd 0=t3mwu 0=t3mwr 0=t3mw2 0=t3mvs 0=t3mtz 0=t3mro 0=t3mqq 0=t3mnb 0=t14mk
  0=t3mnw 0=t3mpq 0=t3mmr 0=t3mm1 0=t3mjd 0=t14gd 0=t3mhp 0=t3mkb 0=t3ml4 0=t3us4 0=t3mfu 0=t3mfa
  0=t3meg 0=t3mfj 0=t3uqj 0=t3m9l 0=t3m8t 0=t13nk 0=t3m5k 0=t3lxw 0=t3m2s 0=t3ulx 0=t3m0u 0=t3umg
  0=t3unh 0=t3q68 0=t3q66 0=t3lxw 0=t3m0p 0=t3gvd 0=t3svy 0=t3lxd 0=t3lxa 0=t3lx5 0=t3lvh 0=t3lvt
  0=t12xm 0=t3ul1 0=t3lr9 0=t3luj 0=t3lov 0=t3lnh 0=t12t2 0=t3lna 0=t3lqe 0=t3ljm 0=t3uiy 0=t3lie
  0=t3lfq 0=t3lds 0=t3l8j 0=t12dl 0=t3l76 0=t3ufq 0=t3l5a 0=t11zd 0=t3l3x 0=t3uec 0=t3l35 0=t3l1x
  0+2=t3l17 0=t11m2 0=t17fx 0=t11j3 0=t3kx8 0=t116n 0=t3ku5 0=t3kts 0=t3kwn 0=t3krt 0=t3kqq
  0=t3kp6 0=t3kqp 0=t3kpm 0=t3kp8 0=t3kow 0=t1148 0=t3kr7 0=t3kk9 0=t3kij 0=t3u8n 0=t3kg0 0=t3kg5
  0=t10sc 0=t3klx 0=t3kbl 0=t10oi 0=t10n7 0=t3k98 0=t3k62 0=t3k6u 0=t3k6y 0=t3u68 0=t3k5p 0=t3k4b
  0=t3k4i 0=t3k31 0=t1c6u 0=t3jyv 0=t103e 0=t3jwi 0=tzuc 0=t3jso 0=t3jsc 0=t3jrm 0=tzdn 0=t3jqc
  0=t3jps 0=tz5d 0=tyz7 0=t3jji 0=t3jj2 0=t3tz2 0=t3jie 0=t3tys 0=t3tyt 0=t3jdz 0=t3jdf 0=t3jcv
  0=t3jcc 0=t3jag 0=t3tw8 0=t3j80 0=ty67 0=t3j7c 0=ty3p 0=t3j60 0=t16l6 0=t3j1m 0=txi2 0=txhg
  0=txdl 0=t3tqa 0=t3tpz 0=t3ivg 0=tx8u 0=tx8w 0=tx7u 0=tx75 0+2=t3iuf 0=t3iug 0=t3ita 0=t3tow
  0=t3irj 0=t3tol 0=t3tme 0=twmo 0=t3im8 0=t3ikj 0=t3iis 0=t3tke 0=tw8c 0=t3if1 0=tw56 0=tw40
  0=t3idj 0=t3ib0 0=t3tih 0=t3i8p 0=t3i8g 0=t3i8c 0=tvkw 0=tvcm 0=tvcn 0=t3i41 0=t3tcu 0=tv5i
  0=t3hy4 0=t3hy2 0=t3tbx 0=tuzp 0=t3hqs 0=t3t8n 0=t3hq8 0=t3hqe 0=t3hpm 0=tued 0=t3hmx 0=t3t64
  0=t3hk7 0=t3hil 0=t3hgr 0=t3t4t 0=ttvu 0=ttv0 0=t3t3v 0=ttr0 0=t3h8c 0=tto9 0=t3h7n 0=t3h4v
  0=t3h4l 0=ttcx 0=ttax 0=t3h25 0=tt7a 0=t3h1r 0=t134x 0=t3t0s 0=t3h00 0=t3gxs 0=t3szd 0=t3gw7
  0=t3oi9 0=tstc 0=tssz 0=t133q 0=t133i 0=t3gqy 0=t3gqw 0=t3e27 0=t3swz 0=t3gn2 0=t3gn9 0=t3gms
  0=t3q3j 0=t3gma 0=t3gm9 0=t3gm0 0=t3gkw 0=ts4b 0=t3gkz 0=t3gjg 0=t3ghj 0=t3gfi 0=t3gjd 0=t3gf4
  0=t3gdz 0=t3gaw 0=t3gi5 0=t3gev 0=t3geu 0=t3gef 0=trxq 0=trp6 0=trtd 0=t3ssc 0=t3g6v 0=t3g6u
  0=t3g5w 0=tqg1 0=t3g3s 0=trcx 0=t3sr5 0=t3sr2 0=tr9b 0=tr1b 0=t3sqv 0=t3fxf 0=t3fx4 0=t3fwu
  0=t3fwt 0=t3fv2 0=t3fw0 0=t3fsb 0=t3ftk 0=t3fpe 0=t3fro 0=t3fpu 0=t3fp4 0=t3so8 0=t3fmn 0=t3fls
  0=t3snd 0=t3fj7 0=t3fj5 0=tpy6 0=t3ffz 0=t3fft 0=t3slv 0=t3ff3 0=t3w27 0=tpi5 0=tpd2 0=t3si7
  0=t3shz 0=t3f3j 0=t3f1f 0=t3ex3 0=t3erh 0=toq3 0=t3ep5 0=t3eok 0=t3em3 0=t3ejk 0=to89 0=t1brp
  0=t3ehb 0=t3ehr 0=t3egc 0=t1blr 0=t3ea2 0=t3e7b 0=tmxa 0=tmwk 0=t3dxq 0=t3dv6 0=t3dub 0=tmnr
  0=t3du3 0=t3dm7 0+2=t3dht 0=t3dke 0=t3d9u 0=t3d93 0=tlpv 0=t3cyr 0=t3ryy 0=t3cxl 0=tlfe 0=t3rws
  0=t3cq8 0=t3o02 0=t3cnm 0=tkoh 0=tkil 0=t3rt6 0=t3rsz 0=t3cii 0=tk4x 0=t3rre 0=tk13 0=t3chf
  0=t3chg 0=t3cgn 0=tjt7 0=t3cbk 0=t3ro0 0=t3c9n 0=t3c66 0=t3c5g 0=t3c3t 0=t3rju 0=tiqh 0=t3bw8
  0=t3bnv 0=t3bin 0=t3rcv 0=t3rc1 0=t3bfs 0=thmq 0=t3rbt 0=thl9 0=thdx 0=thab 0=t3b6i 0=t3r9c
  0=t3b4u 0=t3b4q 0=t3b4k 0=t3b4b 0=t3b45 0=t3b35 0=tgm5 15u+3t7=v 5+6ju=v f62u+6o=i"

/-- What a character of a host name maps to, if it is allowed at all. -/
def mapHostChar (c : Char) : Option (List Char) :=
  match hostStatuses.run? c.toNat with
  | none => none
  | some run =>
    match run.value with
    | .valid => some [c]
    | .ignored => some []
    | .shifted offset => some [Char.ofNat (c.toNat + offset).toNat]
    | .sequence codes => some (codes.map Char.ofNat)
    | .paired => if (c.toNat - run.first) % 2 = 0 then some [Char.ofNat (c.toNat + 1)] else some [c]

/-- Whether a character stands for itself in a mapped host name. -/
def isMapped (c : Char) : Bool := mapHostChar c == some [c]

end OutboundWatch.Unicode
