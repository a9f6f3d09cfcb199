import OutboundWatch.Unicode.RunTable

/-!
# Normalization form C

Canonical composition of the Unicode standard. Text is decomposed, marks are brought into the order
of their combining classes, and every mark that is not blocked is composed with the starter before
it. Only pairs that compose again are in the table of decompositions; characters that decompose for
good do not occur in mapped host names.
-/

namespace OutboundWatch.Unicode

def combiningClasses : RunTable Nat := RunTable.read base36 "
  lc+l=6e 0=6g 0+4=64 0=6g 0=60 0+5=64 0+2=5m 0+4=64 0+2=5m 0+b=64 0+5=1 0+4=64 0+8=6e 0=6o 0=6e
  0+3=64 0+3=6e 0+2=64 1+3=6e 0+4=64 0=6e 0=6g 0+2=64 0=6e 0=6h 0+2=6i 0=6h 0+2=6i 0=6h 0+d=6e
  7n+5=6e 7d=64 0+4=6e 0=64 0+3=6e 0=66 0=64 0+6=6e 0+6=64 0+2=6e 0=64 0+2=6e 0=66 0=6c 0=6e 0=a
  0=b 0=c 0=d 0=e 0=f 0=g 0=h 0=i 0+2=j 0=k 0=l 0=m 1=n 1=o 0=p 1=6e 0=64 1=i 20+8=6e 0=u 0=v 0=w
  1c=r 0=s 0=t 0=u 0=v 0=w 0=x 0=y 0+2=6e 0+2=64 0+5=6e 0=64 0+2=6e 0=64 g=z 2t+7=6e 2+4=6e 0=64
  0=6e 2+2=6e 1=64 0+2=6e 0=64 z=10 u=6e 0=64 0+2=6e 0=64 0+2=6e 0+3=64 0=6e 0+2=64 0=6e 0=64
  0+3=6e 0=64 0=6e 0=64 0=6e 0=64 0=6e 0=64 0+2=6e 4g+7=6e 0=64 0=6e 9=64 o+4=6e 1+9=6e 1+3=6e
  1+5=6e 17+3=64 1o=6e 0+3=64 0+4=6e 16+5=6e 0+5=64 0+e=6e 1=64 0+2=6e 0=64 0+2=6e 0=64 0+3=6e
  0+3=64 0=r 0=s 0=t 0+3=6e 0=64 0+2=6e 0+2=64 0+5=6e 1o=7 g=9 3=6e 0=64 0+2=6e 2v=7 g=9 1c=6e
  1p=7 g=9 32=7 g=9 32=7 g=9 3j=9 32=7 g=9 7=2c 0=2j 2t=7 g=9 31+2=9 g=9 3g=9 31+2=2v 0=9 d+4=2z
  30+2=3a 0=9 d+4=3e 24+2=64 r=64 1=64 1=60 1j=3l 0=3m 1=3o 5+4=3m 2=3m 1+2=6e 0=9 1+2=6e 1q=64
  34=7 1+2=9 2a=64 jz+3=6e qc+2=9 u=9 4d=9 a=6e 5n=6c 3z=66 0=6e 0=64 63=6e 0=64 1z=9 k+8=6e 2=64
  1c+5=6e 0+6=64 0+2=6e 0=64 1+2=64 0+2=6e 0+2=64 0+5=6e 0=64 0+4=6e 2t=7 f=9 12=6e 0=64 0+7=6e
  1i+2=9 1m=7 b+2=9 1v=7 48+3=6e 1=1 0+5=64 0+2=6e 0+4=64 0=6e 1+7=1 4=64 6=6e 3+2=6e 5i+2=6e 0=64
  0+7=6e 0=64 0+2=6e 0=6i 0=5y 0=64 0=5m 0+11=6e 0=6g 0+2=6c 0=64 0=62 0=6e 0=6h 0=64 0=6e 0=64
  k0+2=6e 0+2=1 0+4=6e 0+3=1 0+2=6e 4=6e 3+2=1 0=6e 0=64 0=6e 0+2=1 0+4=64 0=6e 2da+3=6e 3x=9
  2o+w=6e fe=62 0=6c 0=6g 0=66 0+2=68 2x+2=8 n9w=6e 4+a=6e w+2=6e 28+2=6e 7o=9 11=9 47=9 r+i=6e
  1l+3=64 11=9 2n=7 c=9 6n=6e 1+2=6e 0=64 2+2=6e 5+2=6e 1=6e 1g=9 6u=9 fn4=q ld+7=6e 0+7=64 0+2=6e
  r1=64 6a=64 45+5=6e 1aq=64 1=6e 14=6e 0=1 0=64 4=9 4l=6e 0=64 fx+4=6e ar+2=6e 28+3=64 1y+2=64
  0+3=6e 0=64 0=6e 0+4=64 1d=6e 0=64 0=6e 0=64 5c=9 15=9 e=9 1l=9 0=7 1x+3=6e 1c+2=9 1q=7 24=9 9=7
  2y=9 0=7 4y=7 0=9 28+2=7 g=9 o+7=6e 3+5=6e 5p=9 3=7 n=6e 2r=9 0=7 6z=9 0=7 3i=9 3a=9 0=7 37=9
  7h=9 0=7 76+2=9 4=7 4c=9 2b=9 i=9 29=9 bp=9 76=7 1+2=9 29=9 bt+2=9 ey5+5=1 1n+7=6e xl+2=6 f58=1
  43q+2=60 0+3=1 3=6a 0+5=60 8+8=64 2+5=6e 0+2=64 u+4=6e 44+3=6e 2pn+7=6e 1+h=6e 2+7=6e 1+2=6e
  1+5=6e 2s=6e 4g+7=6e af=6e 1p+4=6e e4+2=6g 0=64 0=6e rk+7=64 31+6=6e 0=7"

def canonicalPairs : RunTable (Nat × Nat) :=
  RunTable.read (fun value => match value.splitOn '.' with
    | [first, second] => (base36 first, base36 second)
    | _ => (0, 0)) "
  5c=1t.lc 0=1t.ld 0=1t.le 0=1t.lf 0=1t.lk 0=1t.lm 1=1v.mf 0=1x.lc 0=1x.ld 0=1x.le 0=1x.lk 0=21.lc
  0=21.ld 0=21.le 0=21.lk 1=26.lf 0=27.lc 0=27.ld 0=27.le 0=27.lf 0=27.lk 2=2d.lc 0=2d.ld 0=2d.le
  0=2d.lk 0=2h.ld 2=2p.lc 0=2p.ld 0=2p.le 0=2p.lf 0=2p.lk 0=2p.lm 1=2r.mf 0=2t.lc 0=2t.ld 0=2t.le
  0=2t.lk 0=2x.lc 0=2x.ld 0=2x.le 0=2x.lk 1=32.lf 0=33.lc 0=33.ld 0=33.le 0=33.lf 0=33.lk 2=39.lc
  0=39.ld 0=39.le 0=39.lk 0=3d.ld 1=3d.lk 0=1t.lg 0=2p.lg 0=1t.li 0=2p.li 0=1t.mg 0=2p.mg 0=1v.ld
  0=2r.ld 0=1v.le 0=2r.le 0=1v.lj 0=2r.lj 0=1v.lo 0=2r.lo 0=1w.lo 0=2s.lo 2=1x.lg 0=2t.lg 0=1x.li
  0=2t.li 0=1x.lj 0=2t.lj 0=1x.mg 0=2t.mg 0=1x.lo 0=2t.lo 0=1z.le 0=2v.le 0=1z.li 0=2v.li 0=1z.lj
  0=2v.lj 0=1z.mf 0=2v.mf 0=20.le 0=2w.le 2=21.lf 0=2x.lf 0=21.lg 0=2x.lg 0=21.li 0=2x.li 0=21.mg
  0=2x.mg 0=21.lj 3=22.le 0=2y.le 0=23.mf 0=2z.mf 1=24.ld 0=30.ld 0=24.mf 0=30.mf 0=24.lo 0=30.lo
  4=26.ld 0=32.ld 0=26.mf 0=32.mf 0=26.lo 0=32.lo 3=27.lg 0=33.lg 0=27.li 0=33.li 0=27.ln 0=33.ln
  2=2a.ld 0=36.ld 0=2a.mf 0=36.mf 0=2a.lo 0=36.lo 0=2b.ld 0=37.ld 0=2b.le 0=37.le 0=2b.mf 0=37.mf
  0=2b.lo 0=37.lo 0=2c.mf 0=38.mf 0=2c.lo 0=38.lo 2=2d.lf 0=39.lf 0=2d.lg 0=39.lg 0=2d.li 0=39.li
  0=2d.lm 0=39.lm 0=2d.ln 0=39.ln 0=2d.mg 0=39.mg 0=2f.le 0=3b.le 0=2h.le 0=3d.le 0=2h.lk 0=2i.ld
  0=3e.ld 0=2i.lj 0=3e.lj 0=2i.lo 0=3e.lo x=27.m3 0=33.m3 d=2d.m3 0=39.m3 s=1t.lo 0=2p.lo 0=21.lo
  0=2x.lo 0=27.lo 0=33.lo 0=2d.lo 0=39.lo 0=64.lg 0=70.lg 0=64.ld 0=70.ld 0=64.lo 0=70.lo 0=64.lc
  0=70.lc 1=5g.lg 0=6c.lg 0=fa.lg 0=fb.lg 0=5i.lg 0=6e.lg 2=1z.lo 0=2v.lo 0=23.lo 0=2z.lo 0=27.mg
  0=33.mg 0=dm.lg 0=dn.lg 0=c7.lo 0=ia.lo 0=2y.lo 3=1z.ld 0=2v.ld 2=26.lc 0=32.lc 0=5h.ld 0=6d.ld
  0=5i.ld 0=6e.ld 0=60.ld 0=6w.ld 0=1t.lr 0=2p.lr 0=1t.lt 0=2p.lt 0=1x.lr 0=2t.lr 0=1x.lt 0=2t.lt
  0=21.lr 0=2x.lr 0=21.lt 0=2x.lt 0=27.lr 0=33.lr 0=27.lt 0=33.lt 0=2a.lr 0=36.lr 0=2a.lt 0=36.lt
  0=2d.lr 0=39.lr 0=2d.lt 0=39.lt 0=2b.me 0=37.me 0=2c.me 0=38.me 2=20.lo 0=2w.lo 6=1t.lj 0=2p.lj
  0=1x.mf 0=2t.mf 0=5y.lg 0=6u.lg 0=5x.lg 0=6t.lg 0=27.lj 0=33.lj 0=fi.lg 0=fj.lg 0=2h.lg 0=3d.lg
  9d=4o.ld 0=pd.ld 1=ph.ld 0=pj.ld 0=pl.ld 1=pr.ld 1=px.ld 0=q1.ld 0=qy.ld p=pl.lk 0=px.lk 0=q9.ld
  0=qd.ld 0=qf.ld 0=qh.ld 0=qz.ld p=qh.lk 0=qt.lk 0=qn.ld 0=qt.ld 0=qx.ld 4=r6.ld 0=r6.lk 17=t1.lc
  0=t1.lk 1=sz.ld 3=sm.lk 4=t6.ld 0=t4.lc 0=tf.li a=t4.li v=u0.li m=tx.lc 0=tx.lk 1=tv.ld 3=uu.lk
  4=u2.ld 0=u0.lc 0=ub.li n=vo.lr 0=vp.lr 21=t2.li 0=ty.li d=sw.li 0=ts.li 0=sw.lk 0=ts.lk 2=t1.li
  0=tx.li 2=yg.lk 0=yh.lk 0=t2.lk 0=ty.lk 0=t3.lk 0=tz.lk 2=t4.lg 0=u0.lg 0=t4.lk 0=u0.lk 0=ta.lk
  0=u6.lk 2=yw.lk 0=yx.lk 0=tp.lk 0=ul.lk 0=tf.lg 0=ub.lg 0=tf.lk 0=ub.lk 0=tf.ln 0=ub.ln 0=tj.lk
  0=uf.lk 2=tn.lk 0=uj.lk 88=17r.18z 0=17r.190 0=18o.190 0=17r.191 0=18q.190 49=1cl.190 1=1c1.190
  g=1ci.190 gl=1t4.1to 7=1tc.1to 2=1tf.1to 46=1xj.1xa 0=1xj.1xz aj=287.28m 2=287.27y 0=287.28n
  1z=2aa.2c7 1h=2bq.2bi 0=2br.2bi 0=2bq.2c7 3f=2fa.2fq 3b=2in.2j9 6=2iu.2j9 0=2iu.2ja 1=2iu.2iq
  0=2iy.2j9 3i=2me.2m6 0=2mf.2m6 0=2me.2mv 3x=2qh.2q2 1=2qh.2q7 0=2qk.2q2 0=2qh.2qn g7=36t.372
  25b=5c5.5dh 1=5c7.5dh 1=5c9.5dh 1=5cb.5dh 1=5cd.5dh 3=5ch.5dh 14=5dm.5dh 1=5do.5dh 2=5dq.5dh
  0=5dr.5dh 1=5du.5dh jg=1t.md 0=2p.md 0=1u.lj 0=2q.lj 0=1u.mb 0=2q.mb 0=1u.mp 0=2q.mp 0=5j.ld
  0=6f.ld 0=1w.lj 0=2s.lj 0=1w.mb 0=2s.mb 0=1w.mp 0=2s.mp 0=1w.mf 0=2s.mf 0=1w.ml 0=2s.ml 0=7m.lc
  0=7n.lc 0=7m.ld 0=7n.ld 0=1x.ml 0=2t.ml 0=1x.mo 0=2t.mo 0=fc.li 0=fd.li 0=1y.lj 0=2u.lj 0=1z.lg
  0=2v.lg 0=20.lj 0=2w.lj 0=20.mb 0=2w.mb 0=20.lk 0=2w.lk 0=20.mf 0=2w.mf 0=20.mm 0=2w.mm 0=21.mo
  0=2x.mo 0=5r.ld 0=6n.ld 0=23.ld 0=2z.ld 0=23.mb 0=2z.mb 0=23.mp 0=2z.mp 0=24.mb 0=30.mb 0=5yu.lg
  0=5yv.lg 0=24.mp 0=30.mp 0=24.ml 0=30.ml 0=25.ld 0=31.ld 0=25.lj 0=31.lj 0=25.mb 0=31.mb 0=26.lj
  0=32.lj 0=26.mb 0=32.mb 0=26.mp 0=32.mp 0=26.ml 0=32.ml 0=5x.ld 0=6t.ld 0=5x.lk 0=6t.lk 0=98.lc
  0=99.lc 0=98.ld 0=99.ld 0=28.ld 0=34.ld 0=28.lj 0=34.lj 0=2a.lj 0=36.lj 0=2a.mb 0=36.mb 0=5zu.lg
  0=5zv.lg 0=2a.mp 0=36.mp 0=2b.lj 0=37.lj 0=2b.mb 0=37.mb 0=9m.lj 0=9n.lj 0=9s.lj 0=9t.lj
  0=602.lj 0=603.lj 0=2c.lj 0=38.lj 0=2c.mb 0=38.mb 0=2c.mp 0=38.mp 0=2c.ml 0=38.ml 0=2d.mc
  0=39.mc 0=2d.mo 0=39.mo 0=2d.ml 0=39.ml 0=a0.ld 0=a1.ld 0=a2.lk 0=a3.lk 0=2e.lf 0=3a.lf 0=2e.mb
  0=3a.mb 0=2f.lc 0=3b.lc 0=2f.ld 0=3b.ld 0=2f.lk 0=3b.lk 0=2f.lj 0=3b.lj 0=2f.mb 0=3b.mb 0=2g.lj
  0=3c.lj 0=2g.lk 0=3c.lk 0=2h.lj 0=3d.lj 0=2i.le 0=3e.le 0=2i.mb 0=3e.mb 0=2i.mp 0=3e.mp 0=2w.mp
  0=38.lk 0=3b.lm 0=3d.lm 1=an.lj 4=1t.mb 0=2p.mb 0=1t.ll 0=2p.ll 0=5e.ld 0=6a.ld 0=5e.lc 0=6a.lc
  0=5e.ll 0=6a.ll 0=5e.lf 0=6a.lf 0=61s.le 0=61t.le 0=76.ld 0=77.ld 0=76.lc 0=77.lc 0=76.ll
  0=77.ll 0=76.lf 0=77.lf 0=61s.li 0=61t.li 0=1x.mb 0=2t.mb 0=1x.ll 0=2t.ll 0=1x.lf 0=2t.lf
  0=5m.ld 0=6i.ld 0=5m.lc 0=6i.lc 0=5m.ll 0=6i.ll 0=5m.lf 0=6i.lf 0=62g.le 0=62h.le 0=21.ll
  0=2x.ll 0=21.mb 0=2x.mb 0=27.mb 0=33.mb 0=27.ll 0=33.ll 0=5w.ld 0=6s.ld 0=5w.lc 0=6s.lc 0=5w.ll
  0=6s.ll 0=5w.lf 0=6s.lf 0=630.le 0=631.le 0=bk.ld 0=bl.ld 0=bk.lc 0=bl.lc 0=bk.ll 0=bl.ll
  0=bk.lf 0=bl.lf 0=bk.mb 0=bl.mb 0=2d.mb 0=39.mb 0=2d.ll 0=39.ll 0=bz.ld 0=c0.ld 0=bz.lc 0=c0.lc
  0=bz.ll 0=c0.ll 0=bz.lf 0=c0.lf 0=bz.mb 0=c0.mb 0=2h.lc 0=3d.lc 0=2h.mb 0=3d.mb 0=2h.ll 0=3d.ll
  0=2h.lf 0=3d.lf 6=q9.lv 0=q9.lw 0=64g.lc 0=64h.lc 0=64g.ld 0=64h.ld 0=64g.n6 0=64h.n6 0=pd.lv
  0=pd.lw 0=64o.lc 0=64p.lc 0=64o.ld 0=64p.ld 0=64o.n6 0=64p.n6 0=qd.lv 0=qd.lw 0=64w.lc 0=64x.lc
  0=64w.ld 0=64x.ld 2=ph.lv 0=ph.lw 0=654.lc 0=655.lc 0=654.ld 0=655.ld 2=qf.lv 0=qf.lw 0=65c.lc
  0=65d.lc 0=65c.ld 0=65d.ld 0=65c.n6 0=65d.n6 0=pj.lv 0=pj.lw 0=65k.lc 0=65l.lc 0=65k.ld 0=65l.ld
  0=65k.n6 0=65l.n6 0=qh.lv 0=qh.lw 0=65s.lc 0=65t.lc 0=65s.ld 0=65t.ld 0=65s.n6 0=65t.n6 0=pl.lv
  0=pl.lw 0=660.lc 0=661.lc 0=660.ld 0=661.ld 0=660.n6 0=661.n6 0=qn.lv 0=qn.lw 0=668.lc 0=669.lc
  0=668.ld 0=669.ld 2=pr.lv 0=pr.lw 0=66g.lc 0=66h.lc 0=66g.ld 0=66h.ld 2=qt.lv 0=qt.lw 0=66o.lc
  0=66p.lc 0=66o.ld 0=66p.ld 0=66o.n6 0=66p.n6 1=px.lw 1=66x.lc 1=66x.ld 1=66x.n6 0=qx.lv 0=qx.lw
  0=674.lc 0=675.lc 0=674.ld 0=675.ld 0=674.n6 0=675.n6 0=q1.lv 0=q1.lw 0=67c.lc 0=67d.lc 0=67c.ld
  0=67d.ld 0=67c.n6 0=67d.n6 0=q9.lc 1=qd.lc 1=qf.lc 1=qh.lc 1=qn.lc 1=qt.lc 1=qx.lc 3=64g.n9
  0=64h.n9 0=64i.n9 0=64j.n9 0=64k.n9 0=64l.n9 0=64m.n9 0=64n.n9 0=64o.n9 0=64p.n9 0=64q.n9
  0=64r.n9 0=64s.n9 0=64t.n9 0=64u.n9 0=64v.n9 0=65c.n9 0=65d.n9 0=65e.n9 0=65f.n9 0=65g.n9
  0=65h.n9 0=65i.n9 0=65j.n9 0=65k.n9 0=65l.n9 0=65m.n9 0=65n.n9 0=65o.n9 0=65p.n9 0=65q.n9
  0=65r.n9 0=674.n9 0=675.n9 0=676.n9 0=677.n9 0=678.n9 0=679.n9 0=67a.n9 0=67b.n9 0=67c.n9
  0=67d.n9 0=67e.n9 0=67f.n9 0=67g.n9 0=67h.n9 0=67i.n9 0=67j.n9 0=q9.li 0=q9.lg 0=67k.n9 0=q9.n9
  0=q4.n9 1=q9.n6 0=69i.n9 0=pd.li 0=pd.lg 0=pd.lc 1=pd.n9 4=4o.n6 0=67o.n9 0=qf.n9 0=q6.n9
  1=qf.n6 0=69y.n9 0=ph.lc 1=pj.lc 1=pj.n9 0=69r.lc 0=69r.ld 0=69r.n6 0=qh.li 0=qh.lg 0=qy.lc
  3=qh.n6 0=qy.n6 0=pl.li 0=pl.lg 0=pl.lc 2=6bi.lc 0=6bi.ld 0=6bi.n6 0=qt.li 0=qt.lg 0=qz.lc
  1=qp.lv 0=qp.lw 0=qt.n6 0=qz.n6 0=px.li 0=px.lg 0=px.lc 1=pt.lw 0=4o.lc 4=67w.n9 0=qx.n9 0=r2.n9
  1=qx.n6 0=6ba.n9 0=pr.lc 1=q1.lc 1=q1.n9 bh=6mo.mw 0=6mq.mw i=6ms.mw u=6og.mw 0=6ok.mw 0=6oi.mw
  1g=6pv.mw 4=6q0.mw 2=6q3.mw n=6qr.mw 1=6qt.mw q=6rg.mw 2=6rn.mw 2=6rp.mw 1=6rs.mw m=1p.mw
  1=6sh.mw a=6rx.mw 0=1o.mw 0=1q.mw 0=6sk.mw 0=6sl.mw 2=6sy.mw 0=6sz.mw 2=6t2.mw 0=6t3.mw 6=6t6.mw
  0=6t7.mw 2=6te.mw 0=6tf.mw 2=6ti.mw 0=6tj.mw y=6ua.mw 0=6ug.mw 0=6uh.mw 0=6uj.mw 1c=6t8.mw
  0=6t9.mw 0=6tt.mw 0=6tu.mw 6=6uq.mw 0=6ur.mw 0=6us.mw 0=6ut.mw 2n2=9jf.9ll 1=9jh.9ll 1=9jj.9ll
  1=9jl.9ll 1=9jn.9ll 1=9jp.9ll 1=9jr.9ll 1=9jt.9ll 1=9jv.9ll 1=9jx.9ll 1=9jz.9ll 1=9k1.9ll
  2=9k4.9ll 1=9k6.9ll 1=9k8.9ll 6=9kf.9ll 0=9kf.9lm 1=9ki.9ll 0=9ki.9lm 1=9kl.9ll 0=9kl.9lm
  1=9ko.9ll 0=9ko.9lm 1=9kr.9ll 0=9kr.9lm m=9ja.9ll 9=9lp.9ll d=9m3.9ll 1=9m5.9ll 1=9m7.9ll
  1=9m9.9ll 1=9mb.9ll 1=9md.9ll 1=9mf.9ll 1=9mh.9ll 1=9mj.9ll 1=9ml.9ll 1=9mn.9ll 1=9mp.9ll
  2=9ms.9ll 1=9mu.9ll 1=9mw.9ll 6=9n3.9ll 0=9n3.9lm 1=9n6.9ll 0=9n6.9lm 1=9n9.9ll 0=9n9.9lm
  1=9nc.9ll 0=9nc.9lm 1=9nf.9ll 0=9nf.9lm m=9ly.9ll 2=9nz.9ll 0=9o0.9ll 0=9o1.9ll 0=9o2.9ll
  3=9od.9ll 1616=1fpu.lj q=1fq2.lj 245=1huh.1hve 1=1huj.1hve e=1hut.1hve 3m=1hyp.1hyf 0=1hyq.1hyf
  ez=1idj.1ida 0=1idj.1idz 1i=1if6.1ih5 1=1if8.1igr 8=1iff.1igy 2=1ifk.1ih5 1f=1igy.1igy
  1=1igy.1igo 0=1igy.1ih5 6q=1int.1inu 0=1int.1ink 1=1int.1inx 6z=1iuw.1iun 0=1iux.1iun
  os=1jjp.1jjk e7c=1xr2.1xr2 0=1xr2.1xrd 0=1xr2.1xr3 0=1xrd.1xr3 0=1xr2.1xr4 0=1xr5.1xr3
  0=1xr6.1xr3 0=1xr5.1xr4 2f3=206f.206f 0=206b.206f 0=206h.206f"

def combiningClass (c : Char) : Nat := (combiningClasses.find? c).getD 0

namespace Hangul

def syllableBase : Nat := 0xac00
def leadBase : Nat := 0x1100
def vowelBase : Nat := 0x1161
def trailBase : Nat := 0x11a7
def leadCount : Nat := 19
def vowelCount : Nat := 21
def trailCount : Nat := 28

/-- The parts of a syllable: lead and vowel, or a syllable without trail and a trail. -/
def pair? (code : Nat) : Option (Nat × Nat) :=
  if syllableBase ≤ code ∧ code < syllableBase + leadCount * vowelCount * trailCount then
    let index := code - syllableBase
    if index % trailCount = 0 then
      some (leadBase + index / (vowelCount * trailCount),
        vowelBase + index % (vowelCount * trailCount) / trailCount)
    else some (syllableBase + index / trailCount * trailCount, trailBase + index % trailCount)
  else none

def compose? (first second : Nat) : Option Nat :=
  if leadBase ≤ first ∧ first < leadBase + leadCount ∧ vowelBase ≤ second ∧
      second < vowelBase + vowelCount then
    some (syllableBase + ((first - leadBase) * vowelCount + (second - vowelBase)) * trailCount)
  else if syllableBase ≤ first ∧ first < syllableBase + leadCount * vowelCount * trailCount ∧
      (first - syllableBase) % trailCount = 0 ∧ trailBase < second ∧
      second < trailBase + trailCount then
    some (first + (second - trailBase))
  else none

end Hangul

/-- The full decomposition of a character. No chain of pairs is longer than the fuel given here. -/
def decomposeChar (fuel : Nat) (c : Char) : List Char :=
  match fuel with
  | 0 => [c]
  | n + 1 =>
    match (Hangul.pair? c.toNat).or (canonicalPairs.find? c) with
    | some (first, second) => decomposeChar n (Char.ofNat first) ++ [Char.ofNat second]
    | none => [c]

/-- Insert a mark behind all characters whose class does not exceed its own, but not beyond a
starter. The list is in reverse. -/
def insertMark (c : Char) : List Char → List Char
  | [] => [c]
  | last :: before =>
    if combiningClass c < combiningClass last then last :: insertMark c before
    else c :: last :: before

/-- Bring the marks of a decomposed text into canonical order. -/
def reorder (cs : List Char) : List Char :=
  (cs.foldl
    (fun reversed c => if combiningClass c = 0 then c :: reversed else insertMark c reversed)
    []).reverse

/-- The composed character of a pair, if the pair composes. -/
def composePair? (first second : Char) : Option Char :=
  match Hangul.compose? first.toNat second.toNat with
  | some code => some (Char.ofNat code)
  | none =>
    (canonicalPairs.runs.find? fun run => run.value == (first.toNat, second.toNat)).map
      fun run => Char.ofNat run.first

/-- Compose behind a starter: `kept` are the marks that stayed, in reverse. -/
def composeFrom (starter : Char) (kept : List Char) : List Char → List Char
  | [] => starter :: kept.reverse
  | c :: rest =>
    let blocked :=
      match kept with
      | [] => false
      | last :: _ => decide (combiningClass last = 0 ∨ combiningClass c ≤ combiningClass last)
    match if blocked then none else composePair? starter c with
    | some composed => composeFrom composed kept rest
    | none =>
      if combiningClass c = 0 then starter :: kept.reverse ++ composeFrom c [] rest
      else composeFrom starter (c :: kept) rest

def normalizeC (cs : List Char) : List Char :=
  if cs.all fun c => decide (c.toNat < 0x80) then cs
  else
    match reorder (cs.flatMap (decomposeChar 8)) with
    | [] => []
    | first :: rest =>
      if combiningClass first = 0 then composeFrom first [] rest
      else
        let marks := (first :: rest).takeWhile fun c => combiningClass c ≠ 0
        match (first :: rest).drop marks.length with
        | [] => marks
        | starter :: others => marks ++ composeFrom starter [] others

end OutboundWatch.Unicode
