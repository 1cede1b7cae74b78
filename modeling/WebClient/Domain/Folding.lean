import WebClient.Text.Runs

/-!
# Folding of domain names

Two spellings of a domain name that should not be told apart fold to the same
text: capitals become small letters, forms made for another layout become plain
ones, other full stops become points, and what has no look is dropped.  Many
characters cannot stand in a domain name at all.

The table has a letter for each way of folding.  A character is kept (`K`),
dropped (`D`) or refused (`X`), stands in a run whose first, third, fifth and so
on character is the capital of the one behind it (`P`), goes up (`U`) or down
(`L`) by a distance, or becomes a text of given code points (`T`).
-/

namespace WebClient.Domain

open Text (Run)

/-- The foldings, by their letters. -/
def foldingRows : List String := [
  "K0U1t.wKqX11Lw.3kK1T7.w.lkK1L1.21K1D2K1T1.w.lgK1L2.3kT2.w.ldU1.ljK1T2.w.mfL1.3sL1.23K1",
  "T1.1d.6dg.1gT1.1d.6dg.1eT1.1f.6dg.1gK1U1.wKnU1.wK7PxT1c.2x.ljK1T1.2x.2yP2K4P1T6.30.53P2",
  "T8.jg.32P1L1a.3dP1L6.7gK1U1.5uP1U4.5qU1.1K1U1.5pU2.1K1U2.27U1.5mU1.5nU1.1K1U1.5pU1.5rK1",
  "U1.5vU1.5tU1.1K1U3.5vU1.5xK1U1.5yP1U6.62U1.1K1U1.62K1U2.1K1U1.62U1.1K1U1.61P2U4.63U1.1K1",
  "U3.1K1T7.2s.amT3.30.2yT3.32.2yP3KgP1KiT1.2s.3eU3.1K1L1.2pL1.1kP1L14.3mK1P1KiU6.8bvU1.1K1",
  "L1.4jU1.8bsK1U2.1K1L1.5fU1.1xU1.1zP1KaL2o.g8L1.23L1.g8L1.g1L1.1nL1.1mL1.1hL1.g0L1.fzK1",
  "Tv.w.liT1.w.ljT1.w.lmT1.w.mgT1.w.lfT1.w.lnK1L2.3hL1.hhL1.hbL1.h7L1.27K1L2j.1sK2L1.1c",
  "T1.lk.ldU1.38K1D9K1PwL4.57K1U1.1K1X1T2.w.qhK1L3.n7U1.38X1T4.w.ldT1.w.lk.ldU1.12L1.k0U1.11X3",
  "U1.1sX1U1.1rK2U1.wXhU1.wK9Uz.8L1.uL1.pL1.dL1.6L1.9L1.fL1.mK1P1Lo.1iL1.1cL1.1bK1L1.1oL1.1sK1",
  "U1.1K1L1.1iU1.1K1L2.3mU3.28Ug.wKwP1cKyP8U1i.fP1KeP1X2oU1.1cX12K2T1a.12d.136K1X3K2X3K1X1jK8",
  "XrK4X6KhXmK1T2g.17r.19wT1.18o.19wT1.1c7.19wT1.18q.19wK1X2sK1X1cK2X1nK2X2tKeX1nK2X1dK2XfK1Xs",
  "K2X1K1XbK5XwK7X23K1T39.1sl.1toT1.1sm.1toT1.1sn.1toT1.1ss.1toT1.1sx.1toT1.1sy.1toT1.1t7.1to",
  "T1.1tb.1toK1X10K1X8K2X2K2XmK1X7K1X1K3X4K2X9K2X2K2X4K8X1T4.1wh.1x8T1.1wi.1x8X1T1.1wv.1x8K1X4",
  "K2XpK2X3K1X6K4X2K2XmK1X7K1T1.20i.20sX1K1T1.20o.20sX1K1X2K2X1K1X5K4X2K2X3K3X1T7.1zq.20s",
  "T1.1zr.20sT1.1zw.20sK1X1T1.20b.20sX1K7XhKaX3K1X9K1X3K1XmK1X7K1X2K1X5K2XaK1X3K1X3K2X1KfX4K2",
  "XcK7X7K1X3K1X8K2X2K2XmK1X7K1X2K1X5K2X9K2X2K2X3K7X3T4.275.27wT1.276.27wX1K1X5K2XiKaX2K1X6K3",
  "X3K1X4K3X2K1X1K1X2K3X2K3X3K3XcK4X5K3X3K1X4K2X1K6X1KeXlK5XdK1X3K1XnK1XgK2X9K1X3K1X4K7X2K1X3",
  "K1X2K2X4K2XaK7XmK1X3K1XnK1XaK1X5K2X9K1X3K1X4K7X2K5X3K1X4K2XaK1X3KcXdK1X3K1X1fK1X3K1X6K4XgK2",
  "XqK1X3K1XiK3XoK1X9K1X1K2X7K3X1K4X6K1X1K1X8K6XaK2X3KcT1e.2tp.2syK1X7K4XtK11X2K1X1K1X5K1XoK1",
  "X1K1Tc.2x9.2wiK1XaK2X5K1X1K1X7K1XaT2.2wb.2vtT1.2wb.2w1K1X2KwLc.1K1T1i.30i.33rK1X4K1",
  "T4.30s.33rK1T4.30x.33rK1T4.312.33rK1T4.317.33rK1Tc.30g.33pK1X3K4T2.31t.31uK1T1.31t.31w",
  "T1.33m.328T1.33m.31t.328T1.33n.328T1.33n.31t.328K1T7.31t.328K1Th.32q.33rK1X4K1T4.330.33rK1",
  "T4.335.33rK1T4.33a.33rK1T4.33f.33rK1Tc.32o.33pK1X3K1XfK1XdK11U4g.5lsX12U1.5lsX1U5.5lsX1K2",
  "L18.wK1D2qK2X6gK1X4K2X7K1X1K1X4K2X15K1X4K2XxK1X4K2X7K1X1K1X4K2XfK1X1lK1X4K2X1vK2XwK3XqK6X2e",
  "L2.8X6K2XhsK1XsK3X2hK7XmK9XoK9XkKcXdK1X3K1X2KcD1gK2X14K2XaK6XaK6DbK5XaK6X2hK7X17K5X1yKaXvK1",
  "XcK4XcK4X1K3X16K2X5KbX18K4XqK6XbK3X1qK2X1tK1XtK2XbK6XaK6XeK2X1aK2XcKkX25K1X4mK8X1oK3XfK3",
  "L1f.4suL1.4stL1.4skL1.4siL2.4sjL1.4scL1.4roU1.r7nU1.1K1X1L5.2bkX17L2.2bkK3X8K8X17K5L18.5or",
  "L1.5l3L1.5osK1L1.5osL2.5edL1.5osK8L1.5otL1.5cqL1.5ouL1.5otL1.5osL2.5orL1.5peL1.5boL2.1w",
  "L1.5phL1.5pgL2.5blL1.5bkL2.5piK1L1.5pgL1.5pfL1.5jaL1.5pfL1.5bzL1.1qL2.5piL1.5pfL2.1oL1.5bf",
  "L1.5phL1.1jL1.52jL3.522L2.5q1L1.5ptL1.5prL2.52sL2.52fL1.52bK2Ld.4zfK1Ly.5e1L1.5rtL1.5e0",
  "L1.5nyL1.5dvL1.5ruL1.5duL1.5dtL1.5dqL1.5doL3.18L1.5cbL1.5doL1.11L1.5ccL1.5dnL1.5dpL1.5do",
  "L4.5dmL1.5ddL2.5jeL1.5d9L2.4cL1.5daL2.5s1L1.5d8L3.553K1P1sK46T4.2p.jiL1.1mK1L2.5vjK1P1K2o",
  "L8.8K8X6L2.8X6K2L8.8K8L8.8K8X6L2.8X6K2X8L1.8X1L1.8X1L1.8X1L1.8K1L8.8K8L1.5hhK1L1.5hiK1",
  "L1.5hjK1L1.5hkK1L1.5gtK1L1.5guK1L1.5gvX1T2.64g.qhT1.64h.qhT1.64i.qhT1.64j.qhT1.64k.qh",
  "T1.64l.qhT1.64m.qhT1.64n.qhT1.64g.qhT1.64h.qhT1.64i.qhT1.64j.qhT1.64k.qhT1.64l.qhT1.64m.qh",
  "T1.64n.qhT1.65c.qhT1.65d.qhT1.65e.qhT1.65f.qhT1.65g.qhT1.65h.qhT1.65i.qhT1.65j.qhT1.65c.qh",
  "T1.65d.qhT1.65e.qhT1.65f.qhT1.65g.qhT1.65h.qhT1.65i.qhT1.65j.qhT1.674.qhT1.675.qhT1.676.qh",
  "T1.677.qhT1.678.qhT1.679.qhT1.67a.qhT1.67b.qhT1.674.qhT1.675.qhT1.676.qhT1.677.qhT1.678.qh",
  "T1.679.qhT1.67a.qhT1.67b.qhK1T2.67k.qhT1.q9.qhT1.q4.qhX1K1T1.69i.qhL1.8L2.22L1.5jjT1.q9.qh",
  "T1.w.lvL1.5j9T1.w.lvT1.w.n6T1.w.lk.n6T1.67o.qhT1.qf.qhT1.q6.qhX1K1T1.69y.qhL1.2eL1.5jwL1.2e",
  "L1.5jxT1.qf.qhT1.w.lv.lcT1.w.lv.ldT1.w.lv.n6K1L3.5kzX1K2L2.8L2.2sL1.5kcX1T1.w.lw.lc",
  "T1.w.lw.ldT1.w.lw.n6K1L3.5kjK1L4.8L2.34L1.5jyL1.7T1.w.lk.lcT1.w.lk.ldL1.68fX1T2.67w.qh",
  "T1.qx.qhT1.r2.qhX1K1T1.6ba.qhL1.3kL1.5kdL1.3iL1.5kdT1.qx.qhT1.w.ldT1.w.lwX1T1.wDbK1X2K2L1.1",
  "K1T5.w.mrK1XcK3X1L7.6bzK1T3.6cy.6cyT1.6cy.6cy.6cyK1T1.6d1.6d1T1.6d1.6d1.6d1K1T4.x.xK1",
  "T1.w.lhK1T8.1r.1rT1.1r.xT1.x.1rK1Td.6cy.6cy.6cy.6cyK1L7.6dbD1X5D5L6.6dcL1.6bsX1L2.6dcL6.6dr",
  "U1.bbL1.6dbL1.6dxL2.6c1L1.6dsLa.6e7U1.avL1.6drL1.6edX2L1.6cvL1.6csL1.6cjL1.6cbL1.5yzL1.6ct",
  "L1.6crL4.6cqL1.6coX2K3T8.36.37K1XpKeXxTf.2p.1b.2rT1.2p.1b.37L1.6fzT1.4w.2rK1T1.2r.1b.33",
  "T1.2r.1b.39L1.624K1T1.4w.2uL1.6g3T2.2wL3.6awT1.2xT2.30K2L1.6g7T1.32.33K1L2.6g9T3.36K2",
  "T2.37.31T1.38.2t.30T1.38.31K1L1.6gaK1L1.5stK1L1.6geK1L1.6gvL1.6diL1.6h6K2T1.2tL2.6h7U1.s",
  "L1.6h2L1.6h1L1.5etL4.6hcK1T1.2u.2p.3cL1.5toT1.qbL2.5trU1.5tK1T4.2sL2.6huL1.6hrK2",
  "T6.1d.6dg.1jT1.1d.6dg.1lT1.1d.6dg.1d.1cT1.1d.6dg.1fT1.1e.6dg.1fT1.1d.6dg.1hT1.1e.6dg.1h",
  "T1.1f.6dg.1hT1.1g.6dg.1hT1.1d.6dg.1iT1.1h.6dg.1iT1.1d.6dg.1kT1.1f.6dg.1kT1.1h.6dg.1k",
  "T1.1j.6dg.1kT1.1d.6dgL1.6ifT1.2x.2xT1.2x.2x.2xT1.2x.3aL1.6i6T1.3a.2xT1.3a.2x.2x",
  "T1.3a.2x.2x.2xT1.2x.3cL1.6i9T1.3c.2xT1.3c.2x.2xL1.6ioL1.6iyL2.6iqL1.6ivT1.2x.2xT1.2x.2x.2x",
  "T1.2x.3aL1.6imT1.3a.2xT1.3a.2x.2xT1.3a.2x.2x.2xT1.2x.3cL1.6ipT1.3c.2xT1.3c.2x.2xL1.6j4",
  "L1.6jeL2.6j6K1U3.1K1T5.1c.6dg.1fK1X2K4T4c.6qz.6qzT1.6qz.6qz.6qzK1T1.6r2.6r2T1.6r2.6r2.6r2K1",
  "U6w.2jjK2X73KmXbLl.75bT9.1d.1cT1.1d.1dT1.1d.1eT1.1d.1fT1.1d.1gT1.1d.1hT1.1d.1iT1.1d.1j",
  "T1.1d.1kT1.1d.1lT1.1e.1cT1.14.1d.15T1.14.1e.15T1.14.1f.15T1.14.1g.15T1.14.1h.15T1.14.1i.15",
  "T1.14.1j.15T1.14.1k.15T1.14.1l.15T1.14.1d.1c.15T1.14.1d.1d.15T1.14.1d.1e.15T1.14.1d.1f.15",
  "T1.14.1d.1g.15T1.14.1d.1h.15T1.14.1d.1i.15T1.14.1d.1j.15T1.14.1d.1k.15T1.14.1d.1l.15",
  "T1.14.1e.1c.15X1Tk.14.2p.15T1.14.2q.15T1.14.2r.15T1.14.2s.15T1.14.2t.15T1.14.2u.15",
  "T1.14.2v.15T1.14.2w.15T1.14.2x.15T1.14.2y.15T1.14.2z.15T1.14.30.15T1.14.31.15T1.14.32.15",
  "T1.14.33.15T1.14.34.15T1.14.35.15T1.14.36.15T1.14.37.15T1.14.38.15T1.14.39.15T1.14.3a.15",
  "T1.14.3b.15T1.14.3c.15T1.14.3d.15T1.14.3e.15L1.76dLq.773Lq.796K1T10h.6qz.6qz.6qz.6qzK1",
  "T2v.1m.1m.1pT1.1p.1pT1.1p.1p.1pK1T2t.8gt.mwK1X47K2U3u.1cK1cU1c.1K1L1.8afL1.2xyL1.89zK1P2",
  "L6.8bgL1.8alL1.8bjL1.8biK1U1.1K1U2.1K1L6.8peL1.8p3L1.8cfP2K2sP7K4U3.1K1X1K5X19K1X1K5X1K2X1k",
  "L7.eK1X1KeXoK9X7K1X7K1X7K1X7K1X7K1X7K1X7K1X7K1X3iKyXqK1U4.c32K1U2b.m98X1Uc.64gU1.65jU1.65w",
  "U1.664U1.66tU1.680U1.686U1.68pU1.69eU1.6raU1.6sbU1.6sgU1.6t2U1.6tlU1.6u5U1.6vlU1.6w5U1.6wf",
  "U1.70pU1.73aU1.741U1.745U1.74yU1.756U1.75wU1.768U1.76wU1.78bU1.78sU1.79iU1.7uhU1.7wgU1.897",
  "U1.89tU1.8a0U1.8aaU1.8arU1.8cuU1.8q2U1.8rdU1.8uoU1.8vaU1.8vsU1.8wdU1.8xuU1.8xwU1.97xU1.986",
  "U1.98hU1.98tU1.9c0U1.9c7U1.9cbU1.9fjU1.9fsU1.9g4U1.9gbU1.9hzU1.9ifU1.9iwU1.9l3U1.a17U1.a2g",
  "U1.a30U1.anjU1.annU1.apxU1.aqcU1.aqoU1.ar8U1.asaU1.aseU1.azsU1.b0fU1.b1aU1.bthU1.bvaU1.bvw",
  "U1.bxhU1.by4U1.bycU1.byiU1.bzxU1.c01U1.c0wU1.cuuU1.d78U1.d7jU1.d7nU1.d7qU1.d7xU1.d8eU1.d8f",
  "U1.danU1.dgmU1.dgqU1.dq4U1.dqdU1.drqU1.drwU1.ds4U1.dsbU1.dutU1.duzU1.e1aU1.e1gU1.e2sU1.e38",
  "U1.e4iU1.eb2U1.eb8U1.eboU1.ekqU1.eo7U1.eocU1.etdU1.evrU1.ex0U1.f7hU1.fb5U1.fr2U1.frsU1.ftc",
  "U1.fuqU1.fwlU1.fwvU1.fx0U1.fxwU1.fzzU1.g08U1.g9tU1.g9zU1.ga7U1.gafU1.gauU1.gb8U1.gbbU1.gdh",
  "U1.gdkU1.gdpU1.h4xU1.h5qU1.hiqU1.hj1U1.hjnU1.hrhU1.hrtU1.htrU1.hv0U1.iaqU1.ib4U1.ibiU1.icg",
  "U1.idgU1.iiyU1.ij9U1.il3U1.iryU1.issU1.iykU1.iz4U1.iz8U1.j5bU1.jaeU1.jduU1.jdzU1.je3U1.k40",
  "U1.k48U1.k8jU1.kcsU1.kcuU1.ke4U1.kh0U1.khcU1.khfU1.khlU1.kkaU1.kl7U1.klcU1.klpU1.kqbU1.krp",
  "U1.krsU1.kwuU1.kwwU1.kxeU1.l4dU1.l5oU1.l5uU1.l7rU1.l80U1.l82U1.l8bU1.l94U1.lk2U1.lv5U1.lve",
  "U1.lwfU1.lx0U1.lx7U1.lxgU1.lxjU1.lymU1.lypU1.lz5U1.lz9U1.lzlU1.m0bU1.m0pU1.m0wU1.m2iU1.m2w",
  "U1.m2zX1L16.9ggK1L1.9g4K1L1f.10K1U1.6x5U1.6x7K2X5K1X2eK2T2.w.9llT1.w.9lmK1T2.9l4.9l6K1",
  "T2n.9mb.9mwX1K5X17L1.6cxL2.689L1.6cyL1.689L2.6d0L3.68aL6.6cmL1.6d7L3.6cjL1.6d8La.6b2Dl",
  "L1.6dtL2.68wL2.68tL1.68sL1.68oL1.68lL1.68kL1.6duL1.68iL1.68hL1.6dwL2.6dvL1.6duL2.6drL1.6dq",
  "L1.6dpL5.6dnL1.6dkL1.6dbL1.6d5L1.6d1L1.68hL2.6ctL3.6bnL2.6blL1.6bdL2.6bcL1.6b3L1.6b1X1K1",
  "U2.5m6U1.5q1U1.5mdU1.7d2U1.5mcU1.5naU1.5mbU1.dcpU1.5ofU1.5mmU1.5lxU1.7t8U1.7f6U1.5qzK1X1yKa",
  "Tg.14.3cw.15T1.14.3cy.15T1.14.3cz.15T1.14.3d1.15T1.14.3d2.15T1.14.3d3.15T1.14.3d5.15",
  "T1.14.3d7.15T1.14.3d8.15T1.14.3da.15T1.14.3db.15T1.14.3dc.15T1.14.3dd.15T1.14.3de.15",
  "T1.14.xz4.15T1.14.yvs.15T1.14.zc4.15T1.14.108s.15T1.14.10p4.15T1.14.115g.15T1.14.1224.15",
  "T1.14.12ys.15T1.14.13f4.15T1.14.14bs.15T1.14.14s4.15T1.14.158g.15T1.14.15os.15T1.14.1654.15",
  "T1.14.13p8.15T1.14.1350.13ic.15T1.14.1350.16f8.15X1T1.14.feo.15T1.14.fik.15T1.14.fex.15",
  "T1.14.h5n.15T1.14.fis.15T1.14.g31.15T1.14.fer.15T1.14.g2z.15T1.14.fh9.15T1.14.gg1.15",
  "T1.14.kco.15T1.14.m7f.15T1.14.ldg.15T1.14.kdk.15T1.14.ssx.15T1.14.h7j.15T1.14.k4l.15",
  "T1.14.kkq.15T1.14.kcp.15T1.14.ny6.15T1.14.glp.15T1.14.mm1.15T1.14.rs1.15T1.14.nz1.15",
  "T1.14.gc4.15T1.14.fkz.15T1.14.gos.15T1.14.i1y.15T1.14.nhf.15T1.14.flt.15T1.14.rt3.15",
  "T1.14.ggk.15T1.14.nzh.15T1.14.fm9.15T1.14.pnu.15T1.14.po3.15U1.6x7U1.8qfU1.a4hU1.eh4K1",
  "T8.34.38.2tT1.1e.1dT1.1e.1eT1.1e.1fT1.1e.1gT1.1e.1hT1.1e.1iT1.1e.1jT1.1e.1kT1.1e.1lT1.1f.1c",
  "T1.1f.1dT1.1f.1eT1.1f.1fT1.1f.1gT1.1f.1hL1.6lcL1.6lbL2.6laL3.6l9L1.6l8L2.6l7U5.o0iU1.ox5",
  "U1.pdgU1.qa3U1.qqeU1.r6pU1.s3cU1.szzU1.tgaU1.ucxU1.ut8U1.v9jU1.vpuU1.w65T1.14c8.y5c",
  "T1.13p8.13dkU1.t9uK1U1.5fkU1.5jfU1.5frU1.76gU1.5jkU1.63sU1.5fhU1.63oU1.5hxU1.6goU1.ada",
  "U1.c80U1.be0U1.ae3U1.itfU1.780U1.a51U1.al5U1.ad3U1.dyjU1.6m1U1.cmcU1.hsbU1.dzaU1.6ccU1.e2n",
  "U1.d5pU1.7o8U1.ij1U1.619U1.6heU1.bihU1.k11U1.5m8U1.647U1.b7kU1.5euU1.5fsU1.5etU1.8jjU1.6kr",
  "U1.6fmU1.831U1.81nU1.dh3U1.5lgU1.hspU1.6g5U1.7l8T1.1f.1iT1.1f.1jT1.1f.1kT1.1f.1lT1.1g.1c",
  "T1.1g.1dT1.1g.1eT1.1g.1fT1.1g.1gT1.1g.1hT1.1g.1iT1.1g.1jT1.1g.1kT1.1g.1lT1.1h.1cT1.1d.kco",
  "T1.1e.kcoT1.1f.kcoT1.1g.kcoT1.1h.kcoT1.1i.kcoT1.1j.kcoT1.1k.kcoT1.1l.kcoT1.1d.1c.kco",
  "T1.1d.1d.kcoT1.1d.1e.kcoT1.2w.2vT1.2t.36.2vT1.2t.3aT1.30.38.2sL1.fiL1.fhL1.fgL1.ffL1.fe",
  "L2.fdL1.fcL1.fbL1.faL1.f9L1.f8L1.f7L1.f6L1.f5L1.f4L1.f3L1.f1L1.f0L1.ezL1.eyL6.ewL1.euL1.es",
  "L1.eqL1.eoL5.enL1.emL1.elL6.ekT4.fl0.gp8T1.9lu.9n5.9oc.9mwT1.9lu.9nv.9n9.9lt",
  "T1.9lu.9o3.9ne.9luT1.9lu.9oc.9nvT1.9lw.9mz.9o3.9m8T1.9lw.9o3.9mpT1.9ly.9m1.9o3",
  "T1.9m0.9mh.9m7.9oc.9mxT1.9m0.9oc.9m3.9ocT1.9m2.9o3.9mhT1.9m2.9oc.9nkT1.9m3.9lw.9nu",
  "T1.9m3.9nt.9mr.9mwT1.9m3.9nx.9nu.9ocT1.9m4.9nx.9o3T1.9m4.9o3.9niT1.9m6.9m4T1.9m6.9mz.9oc",
  "T1.9m5.9np.9nu.9ocT1.9m6.9nv.9mo.9ocT1.9m5.9nxT1.9m5.9nx.9m8.9nt.9nk",
  "T1.9m5.9nx.9nl.9oc.9mw.9nvT1.9m5.9nx.9nz.9mr.9mwT1.9m8.9nt.9nkT1.9m8.9nt.9nk.9mw.9o3",
  "T1.9m7.9nv.9mk.9lw.9nxT1.9m7.9nx.9oc.9n1T1.9m9.9oc.9mhT1.9mb.9nv.9myT1.9mb.9oc.9nh",
  "T1.9md.9lw.9m7.9nvT1.9md.9o3.9mp.9oc.9nkT1.9mf.9nu.9o3.9m8T1.9mj.9o3.9mpT1.9mj.9o3.9mw",
  "T1.9mo.9oc.9mhT1.9mv.9mfT1.9mx.9nvT1.9mw.9o3T1.9my.9n2T1.9n2.9mr.9mwT1.9n3.9lw.9ms",
  "T1.9n5.9oc.9mj.9o3.9mwT1.9n5.9oc.9msT1.9n4.9oc.9nw.9nvT1.9n8.9lu.9mh.9mw.9nvT1.9n8.9m7.9nv",
  "T1.9n8.9mbT1.9n7.9nvT1.9n9.9lt.9nt.9mr.9mxT1.9n9.9lv.9oc.9mwT1.9na.9mr.9mf.9lz.9nv",
  "T1.9n9.9nt.9o3T1.9nc.9m7.9mn.9oc.9nvT1.9ne.9mlT1.9ne.9mz.9n6T1.9nc.9nv.9msT1.9ne.9o3.9mh",
  "T1.9ne.9oc.9mgT1.9nd.9oc.9mnT1.9nh.9lw.9o3.9mwT1.9ng.9nv.9mwT1.9nf.9o3T1.9nh.9o3.9mx",
  "T1.9nf.9oc.9nvT1.9nf.9oc.9o3T1.9ni.9lw.9m7.9nxT1.9ni.9lw.9nvT1.9ni.9mr.9n3T1.9ni.9nv.9m7",
  "T1.9ni.9o3.9mf.9nr.9o3T1.9nj.9m7.9nx.9o3T1.9nj.9nuT1.9nj.9nu.9n4.9oc.9nvT1.9nl.9m4",
  "T1.9nl.9m4.9mw.9o3T1.9nl.9oc.9mw.9nvT1.9no.9oc.9mxT1.9no.9oc.9nvT1.9nq.9lu.9o3",
  "T1.9nu.9mr.9mw.9nvT1.9nu.9ntT1.9nv.9n8.9ocT1.9nv.9oc.9na.9nvT1.9nw.9nk",
  "T1.9nw.9o3.9mw.9ma.9o3T1.9nz.9mr.9mwT1.1c.m9lT1.1d.m9lT1.1e.m9lT1.1f.m9lT1.1g.m9lT1.1h.m9l",
  "T1.1i.m9lT1.1j.m9lT1.1k.m9lT1.1l.m9lT1.1d.1c.m9lT1.1d.1d.m9lT1.1d.1e.m9lT1.1d.1f.m9l",
  "T1.1d.1g.m9lT1.1d.1h.m9lT1.1d.1i.m9lT1.1d.1j.m9lT1.1d.1k.m9lT1.1d.1l.m9lT1.1e.1c.m9l",
  "T1.1e.1d.m9lT1.1e.1e.m9lT1.1e.1f.m9lT1.1e.1g.m9lT1.2w.34.2pT1.2s.2pT1.2p.39T1.2q.2p.36",
  "T1.33.3aT1.34.2rT1.2s.31T1.2s.31.1eT1.2s.31.1fT1.2x.39T1.inn.jdcT1.k6l.gp8T1.hlz.l7n",
  "T1.k5q.lh7T1.kkq.irz.fmi.ny6T1.34.2pT1.32.2pT1.qk.2pT1.31.2pT1.2z.2pT1.2z.2qT1.31.2q",
  "T1.2v.2qT1.2r.2p.30T1.2z.2r.2p.30T1.34.2uT1.32.2uT1.qk.2uT1.qk.2vT1.31.2vT1.2z.2vT1.2w.3e",
  "T1.2z.2w.3eT1.31.2w.3eT1.2v.2w.3eT1.38.2w.3eT1.qk.30T1.31.30T1.2s.30T1.2z.30T1.2u.31",
  "T1.32.31T1.qk.31T1.31.31T1.2r.31T1.2z.31T1.31.31.1eT1.2r.31.1eT1.31.1eT1.2z.31.1e",
  "T1.31.31.1fT1.2r.31.1fT1.31.1fT1.2z.31.1fT1.31.6qd.37T1.31.6qd.37.1eT1.34.2pT1.2z.34.2p",
  "T1.31.34.2pT1.2v.34.2pT1.36.2p.2sT1.36.2p.2s.6qd.37T1.36.2p.2s.6qd.37.1eT1.34.37T1.32.37",
  "T1.qk.37T1.31.37T1.34.3aT1.32.3aT1.qk.3aT1.31.3aT1.2z.3aT1.31.3aT1.34.3bT1.32.3bT1.qk.3b",
  "T1.31.3bT1.2z.3bT1.31.3bT1.2z.qxT1.31.qxX1T1.2q.35T1.2r.2rT1.2r.2sT1.2r.6qd.2z.2vX1T1.2s.2q",
  "T1.2v.3dT1.2w.2pT1.2w.34T1.2x.32T1.2z.2zT1.2z.31T1.2z.38T1.30.31T1.30.32T1.30.33.2vT1.30.3c",
  "T1.31.2qT1.31.2x.30T1.31.33.30T1.34.2wX1T1.34.34.31T1.34.36T1.37.36T1.37.3aT1.3b.2q",
  "T1.3a.6qd.31T1.2p.6qd.31T1.1d.k4lT1.1e.k4lT1.1f.k4lT1.1g.k4lT1.1h.k4lT1.1i.k4lT1.1j.k4l",
  "T1.1k.k4lT1.1l.k4lT1.1d.1c.k4lT1.1d.1d.k4lT1.1d.1e.k4lT1.1d.1f.k4lT1.1d.1g.k4lT1.1d.1h.k4l",
  "T1.1d.1i.k4lT1.1d.1j.k4lT1.1d.1k.k4lT1.1d.1l.k4lT1.1e.1c.k4lT1.1e.1d.k4lT1.1e.1e.k4l",
  "T1.1e.1f.k4lT1.1e.1g.k4lT1.1e.1h.k4lT1.1e.1i.k4lT1.1e.1j.k4lT1.1e.1k.k4lT1.1e.1l.k4l",
  "T1.1f.1c.k4lT1.1f.1d.k4lT1.2v.2p.30K1Xm8dK3X1jK9X9oPkK1aPiLs.w2aL1.w29K1X2iK8PyKeP2L1q.1K1",
  "P8L4.r9gP1KaU3.1K1L1.wmgK1P2K4P2Lk.wn8L1.wnjL1.wnfL1.wn5L1.wn8K1L1.wluL1.wmiL1.wlxU1.psP1",
  "Lg.1cL1.wn7L1.rawP1L4.wo7P1Lg.wu9X1Lk.x32L1.x3jL1.x3hL1.x37U1.1K1L2.wy9L1.wx2K1X1fK3XaK6X1k",
  "K8X1yK8XcK6X38KbXuK3X26K1XbK4XxK1X1jK9XeK2XaK2X2vKoXsKaX6K2X6K2X6K9X7K1X7K1L18.txL1.12",
  "L1.xdfL1.dK1L9.xcsK1X2L4.tzkK28X1aK2XaK6X8mcKcXnK4X1dL6is.lh4L1.sulL1.kzcL1.ldnL1.rarL1.xqr",
  "L1.wm9T1.vj0L2.vjsL1.ke1L1.wasL1.vk4L1.tufL1.pt1L1.o0aL1.mohL1.mdzL1.m56L1.kn8L1.s9eL1.rne",
  "L1.qwtL1.qbdL1.n2zL1.khbL1.ispL1.xp5L1.wpzL1.s2hL1.qo3L1.mpeL1.hz6L1.us1L1.r3rL1.ms6L1.m2o",
  "L1.tp8L1.nkeL1.mbsL1.uhqL1.suqL1.rlsL1.qi7L1.km6L1.xifL1.x2vL1.wupL1.tbgL1.s4eL1.qoyL1.pqk",
  "L1.nxvL1.mr3L1.moqL1.l6wL1.jd2L1.iiyL1.i0wL1.pf3L1.p8dL1.of1L1.n79L1.k6zL1.hxdL1.lt7L1.voj",
  "L1.ugvL1.oo4L1.nuvL1.qn8L1.pdpL1.lfqL1.jf6L1.voyL1.uztL1.sahL1.rjnL1.rb3L1.oioL1.obdL1.jk6",
  "L1.ww0L1.nuwL1.x2wL1.x3dL1.p4qL1.oexL1.n6vL1.jj8L1.lp6L1.tqkL1.sbeL1.lsvL1.xt1L1.v3sL1.ua6",
  "L1.qfuL1.q2aL1.wukL1.pd5L1.xieL1.ud9L1.xuiL1.rrwL1.t81L1.ojsL1.wq0L1.vtaL1.prgL1.n51L1.lvp",
  "L1.rzqL1.kw1L1.ru2L1.tpxL1.nf3L1.tlhL1.q35L1.xqhL1.x73L1.x4gL1.smxL1.olwL1.nilL1.luzL1.khb",
  "L1.wwaL1.wn2L1.vm6L1.ujaL1.t6mL1.r5yL1.pcrL1.jq1L1.isdL1.hypL1.hx7L1.wz3L1.szpL1.s2dL1.kyz",
  "L1.umyL1.u0vL1.txsL1.tfbL1.rcfL1.qx6L1.qa3L1.p8rL1.of6L1.nxkL1.l0yL1.n1nL1.ktzL1.k7lL1.x39",
  "L1.wzeL1.wkhL1.r13L1.mamL1.lx3L1.ul5L1.ucuL1.tntL1.s1jL1.orsL1.qiaL1.xqcL1.w4wL1.v5vL1.usx",
  "L1.uc0L1.qgrL1.qbpL1.o45L1.nzeL1.kfxL1.ji4L1.jfvL1.ja4L1.xm2L1.pagL1.kjnL1.jk0L1.u6wL1.xtg",
  "L1.xcxL1.v66L1.v3yL1.t9hL1.se5L1.quqL1.pz3L1.n2eL1.ksnL1.htjL1.t31L1.jo8L1.x1aL1.swdL1.st2",
  "L1.rrdL1.rhrL1.qf7L1.q5wL1.pk3L1.on3L1.j8yL1.x9gL1.tycL1.jmjL1.xihL1.uykL1.rn0L1.l2lL1.uh9",
  "L1.u51L1.ssjL1.qj8L1.jmeL1.x4kL1.wr3L1.v3uL1.t71L1.sybL1.soqL1.rumL1.qfyL1.q2rL1.o6lL1.mc8",
  "L1.mbrL1.kkdL1.jk8L1.wx8L1.rhuL1.wr4L1.qvyL1.qc7L1.mwmL1.jm6L1.ihnL1.i1gL1.swtL1.roqL1.npq",
  "L1.p4cL1.p20L1.orrL1.qpmL1.r4yL1.lusL1.xtpL1.ngoL1.x51L1.x6hL1.uorL1.tv3L1.oq5L1.vb3L1.rtz",
  "L1.t3mL1.l3gL1.mgsL1.jp8L1.m7zL1.unsL1.xccL1.wgdK1L2.vxyK1L1.t5qK1L2.x87L1.qngL1.pxpL1.pgc",
  "L1.pffL1.pf9L1.pe4L1.jieL1.orjL1.o69K1L1.mxaK1L1.lyiK1L2.kx9L1.krtK1L3.j7fL1.j73L1.j5w",
  "L1.i9lL1.kswL1.jncL1.xoiL1.xfuL1.xd1L1.x2iL1.x1sL1.wysL1.wihL1.wflL1.wcwL1.vztL1.vwyL1.v6f",
  "L1.v66L1.ucpL1.u6uL1.u5tL1.u32L1.tf6L1.tb4L1.t6aL1.ssfL1.rtaL1.rosL1.rhhL1.r16L1.qvyL1.qi0",
  "L1.pmiL1.phqL1.phgL1.phiL1.phbL1.ph6L1.ph0L1.pfpL2.pasL1.p90L1.p06L1.okjL1.ojzL1.oigL1.oa0",
  "L1.o5yL1.nsfT1.prtL2.nbcL1.mdsL1.ma3L1.m01L1.lyiL1.ln5L1.llpL1.l2oL1.kz3L1.jnpL1.jfuL1.je7",
  "L1.ueuU1.1sw2L1.nrpX1L2.y16L1.xbwL1.xe2L1.xrnL1.xf3L1.xdhL1.x4fL1.x31L1.wkbL1.wmcL1.wkh",
  "L1.wihL1.w0yL1.vyiL1.vuiL1.vu3L1.vmmL1.vh5L1.ur4L1.uqyL1.umzL1.ul4L1.ucuL1.u9lL1.ubkL1.u7v",
  "L1.u96L1.u55L1.u3cL1.ts9L1.tpuL1.todL1.th6L1.t99L1.t4rL1.t4oL1.t32L1.s9oL1.s7wL1.rx2L1.rlp",
  "L1.rm6L1.rjsL1.rctL1.r3iL1.pvaL1.qy1L1.quoL1.qraL1.qi8L1.qe4L1.qcoL1.q6fL1.q6eL1.q1oL1.q18",
  "L1.q0kL1.py7L1.pyiL1.pnjL1.pa3L1.p2lL1.oxfL1.or8L1.on0L1.odvL1.o8dL1.nkxL1.nglL1.mrgL1.met",
  "L1.mcxL1.mciL1.m4aL1.m2qL1.m40L1.m2jL1.m2nL1.m35L1.m12L1.lyuL1.lo9L1.l8qL1.l01L1.krvL1.klr",
  "L1.jt6L1.jqcL1.jn6L1.jjiL1.jijL1.ji8L1.jgxL1.iwrL1.i0iU1.1njvU1.1njoU1.1ptwL1.11rpL1.10vv",
  "L1.10uzU1.1vucU1.1xx6U1.24n0L1.i39L1.i17X1T12.2u.2uT1.2u.2xT1.2u.30T1.2u.2u.2xT1.2u.2u.30",
  "T1.37.38X2Tc.12s.12uT1.12s.12dT1.12s.12jT1.132.12uT1.12s.12lX1T5.15l.14kK1T1.16a.14nL1.1cfy",
  "L1.1cghL1.1cgfL2.1cg9L3.1cfzL1.1cfyL1.1dkuT1.161.14xT1.161.14yT1.161.14s.14xT1.161.14s.14y",
  "T1.15c.14nT1.15c.14oT1.15c.14sT1.15d.14sT1.15e.14sT1.15f.14sT1.15g.14sT1.15h.14sT1.15i.14s",
  "X1T1.15k.14sT1.15l.14sT1.15m.14sT1.15n.14sT1.15o.14sX1T1.15q.14sX1T1.15s.14sT1.15t.14sX1",
  "T1.15v.14sT1.15w.14sX1T1.15y.14sT1.15z.14sT1.160.14sT1.161.14sT1.162.14sT1.15h.14p",
  "T1.15d.14vT1.15n.14vT1.15w.14vT1.15c.15oT1.19tT2.1a3T4.1a6T4.1a8T4.1a2T4.1a7T4.1a1T4.1b8",
  "T4.1baT4.1acT4.1abT4.1aeT4.1afT4.1alT2.1akT2.1amT2.1agT2.1awT2.1apT2.1bdT4.1bjT4.1bnT4.1bl",
  "T4.1buT2.1bvT4.1c0T2.1c1T4.1byT4.1ciT2.1cjK2Tx.1bhT4.1c7T2.1c6T2.1c8T2.1c7.19wT1.1cbT2.1c5",
  "T2.1c9T2.1cgT4.18pT2.17q.17rT2.17q.1clT2.17q.18oT2.17q.1c7T2.17q.1c6T2.17q.1c8T2.17q.1cg",
  "T3.17q.18pT3.1ccT4.17q.17wT1.17q.17xT1.17q.18lT1.17q.18pT1.17q.18qT1.17s.17wT1.17s.17x",
  "T1.17s.17yT1.17s.18lT1.17s.18pT1.17s.18qT1.17u.17wT1.17u.17xT1.17u.17yT1.17u.18lT1.17u.18p",
  "T1.17u.18qT1.17v.17wT1.17v.18lT1.17v.18pT1.17v.18qT1.17w.17xT1.17w.18lT1.17x.17wT1.17x.18l",
  "T1.17y.17wT1.17y.17xT1.17y.18lT1.183.17wT1.183.17xT1.183.17yT1.183.18lT1.185.17xT1.185.18l",
  "T1.186.17wT1.186.17xT1.186.17yT1.186.18lT1.187.17xT1.187.18lT1.188.18lT1.189.17wT1.189.18l",
  "T1.18a.17wT1.18a.18lT1.18h.17wT1.18h.17xT1.18h.17yT1.18h.18lT1.18h.18pT1.18h.18qT1.18i.17x",
  "T1.18i.18lT1.18i.18pT1.18i.18qT1.18j.17rT1.18j.17wT1.18j.17xT1.18j.17yT1.18j.18kT1.18j.18l",
  "T1.18j.18pT1.18j.18qT1.18k.17wT1.18k.17xT1.18k.17yT1.18k.18lT1.18k.18pT1.18k.18qT1.18l.17w",
  "T1.18l.17xT1.18l.17yT1.18l.18lT1.18l.18pT1.18l.18qT1.18m.17wT1.18m.17xT1.18m.17yT1.18m.18l",
  "T1.18m.18pT1.18m.18qT1.18n.17wT1.18n.18lT1.18n.18pT1.18n.18qT1.18q.17wT1.18q.17xT1.18q.17y",
  "T1.18q.18lT1.18q.18pT1.18q.18qT1.180.19sT1.181.19sT1.18p.19sT1.w.18s.18xT1.w.18t.18x",
  "T1.w.18u.18xT1.w.18v.18xT1.w.18w.18xT1.w.18x.19sT1.17q.181T1.17q.182T1.17q.18lT1.17q.18m",
  "T1.17q.18pT1.17q.18qT1.17s.181T1.17s.182T1.17s.18lT1.17s.18mT1.17s.18pT1.17s.18qT1.17u.181",
  "T1.17u.182T1.17u.18lT1.17u.18mT1.17u.18pT1.17u.18qT1.17v.181T1.17v.182T1.17v.18lT1.17v.18m",
  "T1.17v.18pT1.17v.18qT1.18h.18pT1.18h.18qT1.18i.18pT1.18i.18qT1.18j.17rT1.18j.18kT1.18j.18l",
  "T1.18j.18pT1.18j.18qT1.18k.18lT1.18k.18pT1.18k.18qT1.18l.17rT1.18l.18lT1.18m.181T1.18m.182",
  "T1.18m.18lT1.18m.18mT1.18m.18pT1.18m.18qT1.18p.19sT1.18q.181T1.18q.182T1.18q.18lT1.18q.18m",
  "T1.18q.18pT1.18q.18qT1.17q.17wT1.17q.17xT1.17q.17yT1.17q.18lT1.17q.18nT1.17s.17wT1.17s.17x",
  "T1.17s.17yT1.17s.18lT1.17s.18nT1.17u.17wT1.17u.17xT1.17u.17yT1.17u.18lT1.17u.18nT1.17v.18l",
  "T1.17w.17xT1.17w.18lT1.17x.17wT1.17x.18lT1.17y.17wT1.17y.18lT1.183.17wT1.183.17xT1.183.17y",
  "T1.183.18lT1.185.17xT1.185.17yT1.185.18lT1.186.17wT1.186.17xT1.186.17yT1.186.18lT1.187.17x",
  "T1.188.18lT1.189.17wT1.189.18lT1.18a.17wT1.18a.18lT1.18h.17wT1.18h.17xT1.18h.17yT1.18h.18l",
  "T1.18i.17xT1.18i.18lT1.18j.17wT1.18j.17xT1.18j.17yT1.18j.18kT1.18j.18lT1.18k.17wT1.18k.17x",
  "T1.18k.17yT1.18k.18lT1.18k.18nT1.18l.17wT1.18l.17xT1.18l.17yT1.18l.18lT1.18m.17wT1.18m.17x",
  "T1.18m.17yT1.18m.18lT1.18m.18nT1.18n.17wT1.18n.18lT1.18n.19sT1.18q.17wT1.18q.17xT1.18q.17y",
  "T1.18q.18lT1.18q.18nT1.17q.18lT1.17q.18nT1.17s.18lT1.17s.18nT1.17u.18lT1.17u.18nT1.17v.18l",
  "T1.17v.18nT1.183.18lT1.183.18nT1.184.18lT1.184.18nT1.18j.18kT1.18j.18lT1.18k.18lT1.18m.18l",
  "T1.18m.18nT1.18q.18lT1.18q.18nT1.18g.18u.18xT1.18g.18v.18xT1.18g.18w.18xT1.187.18p",
  "T1.187.18qT1.189.18pT1.189.18qT1.18a.18pT1.18a.18qT1.183.18pT1.183.18qT1.184.18pT1.184.18q",
  "T1.17x.18pT1.17x.18qT1.17w.18pT1.17w.18qT1.17y.18pT1.17y.18qT1.185.18pT1.185.18qT1.186.18p",
  "T1.186.18qT1.184.17wT1.184.17xT1.184.17yT1.184.18lT1.184.181T1.183.181T1.185.181T1.186.181",
  "T1.187.18pT1.187.18qT1.189.18pT1.189.18qT1.18a.18pT1.18a.18qT1.183.18pT1.183.18qT1.184.18p",
  "T1.184.18qT1.17x.18pT1.17x.18qT1.17w.18pT1.17w.18qT1.17y.18pT1.17y.18qT1.185.18pT1.185.18q",
  "T1.186.18pT1.186.18qT1.184.17wT1.184.17xT1.184.17yT1.184.18lT1.184.181T1.183.181T1.185.181",
  "T1.186.181T1.184.17wT1.184.17xT1.184.17yT1.184.18lT1.183.18nT1.184.18nT1.187.18lT1.183.17w",
  "T1.183.17xT1.183.17yT1.184.17wT1.184.17xT1.184.17yT1.187.18lT1.188.18lT1.17r.18rK2",
  "Ti.17u.17w.18lT1.17u.17x.17wT2.17u.17x.18lT1.17u.17y.18lT1.17u.18l.17wT1.17u.18l.17x",
  "T1.17u.18l.17yT1.17w.18l.17xT2.17x.18l.18qT1.17x.18l.18pT1.183.17x.17wT1.183.17w.17x",
  "T1.183.17w.18pT1.183.18l.17xT2.183.18l.17wT1.183.18l.18lT2.185.17x.17xT2.185.18l.18l",
  "T1.184.17x.18lT2.184.17w.18qT1.184.18l.17yT2.184.18l.18lT2.186.17x.18pT1.186.17y.18l",
  "T2.187.18l.17xT2.187.18l.18lT1.187.18l.18qT1.189.17w.18lT1.189.18l.18lT2.189.18l.18p",
  "T1.18a.18l.18lT1.18a.18l.18qT1.18a.18l.18pT1.18h.17y.18lT2.18i.18l.17xT1.18i.18l.18l",
  "T1.18k.17x.18lT1.18k.17x.18qT1.18k.17x.18pT1.18k.17w.17wT2.18k.17y.18lT2.18k.18l.17x",
  "T2.18l.17x.17wT1.18l.17x.18lT1.18l.17x.18qT1.18l.17w.17xT1.18l.17w.18lT1.18l.17y.17w",
  "T1.18l.17y.18lK1T2.18l.17w.17yT1.18n.18l.17wT1.18n.18l.18lT1.18m.17x.18lT1.18m.17x.18p",
  "T1.18m.17w.18lT2.18m.17w.18pT1.18m.18l.18qT1.18m.18l.18pT1.18q.18l.18lT2.17s.17y.18q",
  "T1.17u.17w.18qT1.17u.17w.18pT1.17u.17y.18qT1.17u.17y.18pT1.17u.18l.18qT1.17u.18l.18p",
  "T1.17w.18l.18qT1.17w.17x.18pT1.17w.18l.18pT1.183.17y.18pT1.185.17x.18qT1.184.17x.18q",
  "T1.186.17x.18qT1.18k.17w.18qT1.18k.18l.18qT1.18q.17x.18qT1.18q.17w.18qT1.18q.18l.18q",
  "T1.18l.18l.18qT1.18i.18l.18qT1.18m.17x.18qT1.18i.18l.17xT1.18k.17x.18lT1.189.18l.18q",
  "T1.18j.18l.18qT1.18m.17w.17xT1.18l.17y.18qT1.18k.17w.18lT1.18j.18l.18lT1.18k.17w.18l",
  "T1.18m.17w.17xT1.17w.17x.18qT1.17x.17w.18qT1.18l.17w.18qT1.18h.18l.18qT1.17s.17x.18q",
  "T1.18j.18l.18lT1.189.17w.18lT1.185.18l.18lT1.183.17y.18qT1.18m.17w.18qK1X8Tw.185.18k.1ci",
  "T1.18i.18k.1ciT1.17r.18k.18k.18nT1.17r.18j.17s.181T1.18l.17x.18l.17zT1.185.18k.189.18l",
  "T1.181.183.18o.18kT1.189.18k.18q.18nT1.18o.183.18k.18lT1.185.18k.18p",
  "T1.185.18k.18p.w.17r.18k.18k.18n.w.189.18k.18q.18n.w.18o.183.18k.18l",
  "T1.17w.18k.w.17w.18k.17r.18k.18nT1.181.1cc.17r.18kK1D3Lg.1e5gL1.14pcX1L1.1e55L2.1e5wL1.1e53",
  "L1.14oxX2K7XgL1.17vhL1.17vjT1.2nL2.1e6lL2.1e4cL1.1e4bL1.14pxL2.14q3L2.14qbL2.14qfL2.14qdK4",
  "L2.1e5oL1.1e5nT1.w.lhT4.2nL3.1e78L1.14r4X1L2.1e6xL1.1e6zL1.1e6vL1.1e7qL1.17wkL1.1e7lL2.1e5c",
  "L1.1e5bL1.14qxL2.1e7wL1.1e7uL1.1e7rL2.1e7qL1.1e7cL1.1e7bL1.1e7dX1L1.1e6kL1.1e85L2.1e7fX1",
  "T4.w.18rT1.18g.18rT1.w.18sK1T1.w.18tX1T1.w.18uT1.18g.18uT1.w.18vT1.18g.18vT1.w.18w",
  "T1.18g.18wT1.w.18xT1.18g.18xT1.w.18yT1.18g.18yL1.1d27L2.1d28L2.1d29L2.1d2aL2.1d2bT2.17q",
  "T3.17rT2.17sT4.17tT2.17uT4.17vT4.17wT4.17xT4.17yT4.17zT2.180T2.181T2.182T2.183T4.184T4.185",
  "T4.186T4.187T4.188T4.189T4.18aT4.18hT4.18iT4.18jT4.18kT4.18lT4.18mT4.18nT4.18oT2.18pT2.18q",
  "T4.18k.17mT2.18k.17nT2.18k.17pT2.18k.17rX2D2X1L1.1ecgLw.1ebkLq.1ecgL10.168qL2.1eerL1.14ye",
  "L2.14yrL1.14ruL1.14s4L1.14ueL1.14udL1.14ucL1.14ubL1.14uaL1.14spL1.14soL1.14snL1.14toL1.14s4",
  "L1.14unL1.14umL1.14ulL1.14ukL1.14ujL2.14uiL1.14uhL1.14ugL1.14ufL1.14ueL1.14udL1.14ucL1.14ub",
  "L1.14uaL1.14u9L1.14u8L1.14u6L1.14u5L1.14u4L1.14u3L6.14u1L1.14tzL1.14txL1.14tvL1.14ttL5.14ts",
  "L1.14trL1.14tqL6.14tpL1.14tmL1.14w5D2L1.1b4xL2.1b09L1.1b4yL1.1b09L2.1b50L3.1b0aL6.1b4m",
  "L1.1b57L3.1b4jL1.1b58XaL3.1b35X6L2.1b37X6L2.1b39X6L2.1b3bX3L3.1ef2L2.1eeuT1.w.lgL1.1ef2",
  "L1.1ef4L1.183hX1L1.178mL1.17x5L4.174dL1.1737X1KhXcK1XqK1XjK1X2K1XfK2XeKyX3fK5X3K4X19K3X2gK1",
  "XdK3X1K1bX1aK3mXtK3X1dKfXsK4X10K9XuK5X17K5XuK1X11K4XeU16.14K14X3aK2XaU6.14X10K4X10K4X14K8",
  "X1gKbU1.13XbU1.13XfU1.13X7U1.13X2K1XbK1XfK1X7K1X2K3X1gKcX8nK9XmKaX8KoL1.1fhtL2.1fvhL1.1fjf",
  "L1.1fleX1L1.1fj8L1.i76L1.1fj8L1.1fjaL1.1flhL2.1a7wL1.1fliL1.1fldL1.1fjbL1.1fl9L1.1flc",
  "L1.1flfL1.1fjtL1.1fu6L1.1fjuL1.1flcL1.1fkkL1.1fjjL2.1flbU1.16jsL1.iz3L1.1flcU1.16jqL1.1fki",
  "U1.16jpL1.1fvuL1.1fl9L2.1fzoL1.1fl8U1.16jlL1.1fl7L2.1fl6L1.1fk3L1.1fk6L1.i86L1.1fk7L1.1fl3",
  "L1.17b3X1L1.1fkzL1.1fkiL2.1fktL1.1fquU3.16j5U1.16joX1K1xX6K2X1K1X18K1X2K3X1K2XnK1X20K8X9K1c",
  "XjK1X2K5XxK3XrK5XrK12X1kK4XkK2X1eK1X2K5X8K1X3K1XtK2X3K4XaK7X9K7X1sKwX13K4XcK9X1iK3XtK2XrK5",
  "XqK7X4KcX7K28X21U1j.1sX1fKdX1fK7X1aK8XaK6Ug.wXmK3XtK8X2K5sXvK1X16K1X3K2X2KgX6K8X9KxX1aK8X16",
  "KmXqK12XsKkXnK9X26K4X10K9X1qK1X5KdXpK7XaK6X1hK1XiK8X13K9X2oK1XkKbXiK1X1bK1qX7K1X1K1X4K1XfK1",
  "XbK6X1nK5XaK6X4K1X8K2X2K2XmK1X7K1X2K1X5K1XaK2X2K2X3K2X1K6X1K5X7K2X7K3X5KbXaK1X1K2X1K1X12K1",
  "XaK1X1K2X1K1X4K1XaK1X2K8X2KtX2kK1X5KuX20K8XaK4mX1iK2X12KyX1xKbXaK6XdKjX1mK6XaK6XkKsXrK2XfK4",
  "XnK55X1oU2s.wKwX1fKcX8K2X1K2X8K1X2K1XuK1X2K2XcK9XaK1yX8K2X1aK2XbKrX20K8X2bKdX21K7XaK2eX8K2g",
  "XyKeXaK6X9K1X19K1XeKaXtK3XwK2XmK1XeK21X7K1X2K1X18K3X1K1X2K1X9K8XaK6X6K1X2K1X11K1X2K1X6K7Xa",
  "K6X18K4XaK6uXpK7XhK1X15K3XtK2dX1KfX1eKdXpnK2uX33K1X5KbX5gK218X2rKdXtsKgXmKaX32zK5Xg7K5a1X1m",
  "K1c6XftK7XvK1XaK4X29K1XaK6XuK2X6KaX1yKaXaK1X7K1XlK5XjKc0X1mU5i.wKwX1nU5.rXpK2XpK18X23K4X1l",
  "K7XhK1sX5KbX7K9X5p2K15XwK2pX37K6ppX4K1X7K1X2K1X83KfX1KtX3K2X1KeX4K8Xb0K1s4X2zK5XdK3X9K7XaK2",
  "D4X4K318L5y.2iydLq.2j0gKaX3K3Xc4K6XnKfXhKfX1aK2XnK9X38K1oX6uKaX13K2T1h.2jx3.2jxh",
  "T1.2jx4.2jxhT1.2jx4.2jxh.2jxqT1.2jx4.2jxh.2jxrT1.2jx4.2jxh.2jxsT1.2jx4.2jxh.2jxt",
  "T1.2jx4.2jxh.2jxuK1DeK8T1s.2jzt.2jxhT1.2jzu.2jxhT1.2jzt.2jxh.2jxqT1.2jzu.2jxh.2jxq",
  "T1.2jzt.2jxh.2jxrT1.2jzu.2jxh.2jxrK1X16KlX1yK3eXkKcXkKcX2fK9XpL3r.2kdbLq.2ke1Lq.2kerLq.2kfh",
  "X7L1.2kfhLi.2kg7Lq.2kgxLq.2khnX1L1.2khnX2L2.2khnX1L2.2khnX2L2.2khnX4L1.2khnL8.2kidX4L1.2kid",
  "X1L1.2kidX7L1.2kidLb.2kj3Lq.2kjtLq.2kkjX2L1.2kkjX4L2.2kkjX8L1.2kkjX7L1.2kl9Lq.2klzX2L1.2klz",
  "X4L1.2klzX5L1.2klzX1L3.2klzX7L1.2kmpLq.2knfLq.2ko5Lq.2kovLq.2kplLq.2kqbLq.2kr1Lq.2krr",
  "Lq.2kshLq.2kt7Lq.2ktxLq.2kunLq.2kvdLq.2kqbL1.2kj2X1L2.2k8nLh.2k8xL1.2k8nL7.2e9mL1.2k9dTh.qr",
  "L2.2k9dL6.2eahL1.2k9zL1.2k9xL1.2k9wL1.2k9lL1.2k9rL1.2k9tL1.2ka9Lh.2kajL1.2ka9L7.2eb8L1.2kaz",
  "Th.qrL2.2kazL6.2ec3L1.2kblL1.2kbjL1.2kbiL1.2kb7L1.2kbdL1.2kbfL1.2kbvLh.2kc5L1.2kbvL7.2ecu",
  "L1.2kclTh.qrL2.2kclL6.2edpL1.2kd7L1.2kd5L1.2kd4L1.2kctL1.2kczL1.2kd1L1.2kdhLh.2kdrL1.2kdh",
  "L7.2eegL1.2ke7Th.qrL2.2ke7L6.2efbL1.2ketL1.2kerL1.2keqL1.2kefL1.2kelL1.2kenL1.2kf3Lh.2kfd",
  "L1.2kf3L7.2eg2L1.2kftTh.qrL2.2kftL6.2egxL1.2kgfL1.2kgdL1.2kgcL1.2kg1L1.2kg7L1.2kg9T1.rhX2",
  "L2.2l5qLa.2l60La.2l6aLa.2l6kLa.2l6uKaXi4KfX5K1XfKuoXvK6X6K5xX7K1XhK2X7K1X2K1X5L5.2m0w",
  "L9.2m0vL3.2m0uLb.2m0sL1.2m0rL2.1pz5L1.2lwyL1.2m0mL1.2m0lL1.2lwlL1.2ly8L1.2lxdL1.2m1tL9.2m1s",
  "L2.2m1qL2.2m1pL1.2m1oL6.2m1nL2.2lzqL1.2m1eL1.2m1gL1.2m17L1.2lz4L1.1q1nL1.2lz0X1KxX1K34X19K3",
  "XeK2XaK4X2K8wXvKhX1mK5X1KcwX16K5yX17K4X1K5cXvK1XmK8X2K68X7K1X4K1X2K1XfK1X5hK2XgU15.yKyX16K4",
  "XaK4X2KltX1wK24X1pL5e.2od5L2.2od2L1.2od0X1L1.2ocdL1.2od0L1.2od6L1.2ocxL1.2ocfL1.2ocnL4.2od7",
  "L1.2od2L1.2ocvL1.2od8L1.2ocwL1.2odeL1.2odcL1.2odnL2.2odlL1.2odkL1.2odfL1.2odeL1.2oddL1.2oby",
  "L1.2o9vL1.2oalL1.2oc0X1L1.2oe1L1.2odyX1L1.2od9X1L2.2oe2X1L1.2odbL1.2odjL4.2oe3L1.2ody",
  "L1.2odrL1.2oe4L1.2odsX1L1.2oe8L1.2oejL2.2oehX1L1.2oebX1L1.2oe9X1L6.2oeuX1L4.2oeyX1L1.2oe7X1",
  "L1.2oefX1L1.2oefL1.2oezL1.2oeuX1L1.2of0L1.2oeoX1L1.2of4X1L2.2ofdX1L1.2of7X1L1.2of5X1L1.2obn",
  "X1L1.2odsX1L1.2oftL1.2ofqX1L1.2of1X1L2.2ofuL1.2oflL1.2of3L1.2ofbX1L1.2ofbL2.2ofvL1.2ofq",
  "L1.2ofjL1.2ofwL1.2ofkX1L1.2og0L1.2ogbL2.2og9X1L1.2og3L1.2og2L1.2og1L1.2oemX1L1.2od9X1",
  "L1.2ogpL2.2ogmL1.2ogkL1.2ofxL2.2ogkL1.2ogqL1.2oghL1.2ofzX1L1.2og7L3.2ogrL1.2ogmL1.2ogf",
  "L1.2ogsL1.2oggL1.2ogyL1.2ogwL1.2oh7L2.2oh5L1.2oh4L1.2ogzL1.2ogyL1.2ogxX1L5.2ohlL1.2ohi",
  "L1.2ohgX1L1.2ogtL1.2ohgL1.2ohmL1.2ohdL1.2ogvX1L1.2oh3L3.2ohnL1.2ohiL1.2ohbL1.2ohoL1.2ohc",
  "L1.2ohuL1.2ohsL1.2oi3L2.2oi1L1.2oi0L1.2ohvL1.2ohuL1.2ohtX1K1gX2K7iX18K4X2sKcXfK2XfK1XfK1X11",
  "Tb.1c.18T1.1d.18T1.1e.18T1.1f.18T1.1g.18T1.1h.18T1.1i.18T1.1j.18T1.1k.18T1.1l.18K1",
  "T5.14.2p.15T1.14.2q.15T1.14.2r.15T1.14.2s.15T1.14.2t.15T1.14.2u.15T1.14.2v.15T1.14.2w.15",
  "T1.14.2x.15T1.14.2y.15T1.14.2z.15T1.14.30.15T1.14.31.15T1.14.32.15T1.14.33.15T1.14.34.15",
  "T1.14.35.15T1.14.36.15T1.14.37.15T1.14.38.15T1.14.39.15T1.14.3a.15T1.14.3b.15T1.14.3c.15",
  "T1.14.3d.15T1.14.3e.15T1.9hw.37.9hxL1.2q4oL1.2q4aT1.2r.2sT1.3b.3eK1L1.2q4vTq.2w.3aT1.31.3a",
  "T1.37.2sT1.37.37T1.34.34.3aT1.3b.2rK1Tq.31.2rT1.31.2sT1.31.36K1Tz.2s.2yK1XtK1kTq.9kr.9jf",
  "T1.9mb.9mbL1.2gr1X1Ld.26ytL1.28caL1.29tyL1.2gr0L1.2avcL1.28sbL1.1z5fL1.28ryL1.2ausL1.267t",
  "L1.241lL1.26bmL1.2a4vL1.27ipL1.2aa9L1.26b3L1.2a6bL1.21njL1.239fL1.1ym2L1.28twL1.29rgL1.24gi",
  "L1.26xeL1.26s3L1.2aztL1.2azlL1.1xwhL1.27uuL1.2ayoL1.29tnL1.26ugL1.1ygwL1.26ziL1.22epL1.227t",
  "L1.29t8L1.24l1L1.2625L1.2627L1.239hL1.2a4nL1.29hgL1.1xpqX1T4.9hw.kdo.9hxT1.9hw.fex.9hx",
  "T1.9hw.fik.9hxT1.9hw.i2x.9hxT1.9hw.m9l.9hxT1.9hw.jf7.9hxT1.9hw.nh3.9hxT1.9hw.gd9.9hx",
  "T1.9hw.k0n.9hxX1L7.27jtL1.29uqX1KeX6K4aXrdK3XhK3XdK3X62K6XcK4X1KfXcK4X1kK8XaK6X14K8XuK2XcK4",
  "X2KeX9K13X9kK8XeK2XdK3XbK3X1lK1X1K4XgK2XcK4XaK7X43K1L2k.2saoKaX1KslXwyoKwX3dqK2X4geK2X5rlKf",
  "XhaL1wi.3qo3L1.3qo9L1.3qo1L1.1crlL1.3qg4L1.3qdzL1.3qdnL1.3qbpL1.3q8eL1.3q7kL1.3q5fL1.3q64",
  "L1.3vqmL1.1brnL1.3q2pL1.3q2jL1.3q24L1.3q1mL1.1bzqL1.3vq2L1.3q25L1.3q14L1.1byjL1.3q0wL1.3q0k",
  "L1.3qktL1.3q0eL1.3q06L1.k71L1.3pygL1.3py3L1.3vpcL1.3pwlL1.3pwbL1.3pv4L1.3pv0L1.3vnzL1.3psu",
  "L1.3pstL1.3ps3L1.3priL1.3pr8L2.3pqsL1.3ppfL1.3pp8L1.3pp0L1.3pocL1.3po3T1.ghrL3.1b0oL1.3jyd",
  "L1.3pm4L1.3plkL1.1as5L1.3plaL1.3pl5L1.3pklL1.3pgeL1.3pj9L1.3piuL1.3phzL1.3pgeL1.3pe3L1.3pde",
  "L1.3pbkL1.3pb5T1.gw4L2.3p9qL1.3p99L1.3p92L1.3p8oL1.3oz9L1.3p6uL1.3ozaL1.3p4tL1.3p3vL1.3pzd",
  "L1.3ombL1.3oucL1.3otbL1.3osnL1.3owaL1.3oroL1.3orqL1.3oocL1.18xhL1.3omgL1.3omcL1.3olyL1.3olf",
  "L1.3ol8L1.3ojhL1.18l4L1.18jbL1.3ofqL1.3oegL1.3oe5L1.3ogdL1.3ocgL1.3vcpL1.3vccL1.3o81T1.i0u",
  "L2.17z8L1.3o2yL1.3o2eL1.3o20L1.3o1pL1.17q1L1.3o1fL1.3o19L1.3ndtL1.3o0jL1.3v91L1.3nyvL1.3nyi",
  "L1.3nw9L1.3nxpL1.176fL1.3nspL1.176fL1.3nrkL1.3nroL1.3nr8L1.3nogL2.3v4kL1.3nnrL1.3nmlL1.3nm1",
  "L1.3nkuL1.3v3aL1.16h2L1.3v2mL1.3nizL1.3nixL1.3nivL1.3nicL1.gsdL1.3ngyT1.3035L2.3gk2T1.isi",
  "L2.3v0vL1.1333L1.tryL1.3nefL1.3ne7L1.3v08L1.3ncyL1.3nbkL1.3nbbL1.3naeL1.3n6nL1.3uxzL1.3uyu",
  "L1.3n67L1.15g0L1.3n4uL1.3n1aL1.3n17L1.3n16L1.3n19L1.3n00L1.3mzhL1.3myiL1.3myxL1.3mynL1.3mxd",
  "L1.3mwuL1.3mwrL1.3mw2L1.3mvsL1.3mtzL1.3mroL1.3mqqL1.3mnbL1.14mkL1.3mnwL1.3mpqL1.3mmrL1.3mm1",
  "L1.3mjdL1.14gdL1.3mhpL1.3mkbL1.3ml4L1.3us4L1.3mfuL1.3mfaL1.3megL1.3mfjL1.3uqjL1.3m9lL1.3m8t",
  "L1.13nkL1.3m5kL1.3lxwL1.3m2sL1.3ulxL1.3m0uL1.3umgL1.3unhL1.3q68L1.3q66L1.3lxwL1.3m0pL1.3gvd",
  "L1.3svyL1.3lxdL1.3lxaL1.3lx5L1.3lvhL1.3lvtL1.12xmL1.3ul1L1.3lr9L1.3lujL1.3lovL1.3lnhL1.12t2",
  "L1.3lnaL1.3lqeL1.3ljmL1.3uiyL1.3lieL1.3lfqL1.3ldsL1.3l8jL1.12dlL1.3l76L1.3ufqL1.3l5aL1.11zd",
  "L1.3l3xL1.3uecL1.3l35L1.3l1xL1.3l17L2.11m2L1.17fxL1.11j3L1.3kx8L1.116nL1.3ku5L1.3ktsL1.3kwn",
  "L1.3krtL1.3kqqL1.3kp6L1.3kqpL1.3kpmL1.3kp8L1.3kowL1.1148L1.3kr7L1.3kk9L1.3kijL1.3u8nL1.3kg0",
  "L1.3kg5L1.10scL1.3klxL1.3kblL1.10oiL1.10n7L1.3k98L1.3k62L1.3k6uL1.3k6yL1.3u68L1.3k5pL1.3k4b",
  "L1.3k4iL1.3k31L1.1c6uL1.3jyvL1.103eL1.3jwiL1.zucL1.3jsoL1.3jscL1.3jrmL1.zdnL1.3jqcL1.3jps",
  "L1.z5dL1.yz7L1.3jjiL1.3jj2L1.3tz2L1.3jieT1.ce0L2.3jdzL1.3jdfL1.3jcvL1.3jccL1.3jagL1.3tw8",
  "L1.3j80L1.y67L1.3j7cL1.y3pL1.3j60L1.16l6L1.3j1mL1.xi2L1.xhgL1.xdlL1.3tqaL1.3tpzL1.3ivg",
  "L1.x8uL1.x8wL1.x7uL1.x75L1.3iufL2.3iugL1.3itaL1.3towL1.3irjL1.3tolL1.3tmeL1.wmoL1.3im8",
  "L1.3ikjL1.3iisL1.3tkeL1.w8cL1.3if1L1.w56L1.w40L1.3idjL1.3ib0L1.3tihL1.3i8pL1.3i8gL1.3i8c",
  "L1.vkwT1.3b1jL2.3i41L1.3tcuL1.v5iL1.3hy4L1.3hy2L1.3tbxL1.uzpL1.3hqsL1.3t8nL1.3hq8L1.3hqe",
  "L1.3hpmL1.uedL1.3hmxL1.3t64L1.3hk7L1.3hilL1.3hgrL1.3t4tL1.tvuL1.tv0L1.3t3vL1.tr0L1.3h8c",
  "L1.to9L1.3h7nL1.3h4vL1.3h4lL1.tcxL1.taxL1.3h25L1.t7aL1.3h1rL1.134xL1.3t0sL1.3h00L1.3gxs",
  "L1.3szdL1.3gw7L1.3oi9L1.stcL1.sszL1.133qL1.133iL1.3gqyL1.3gqwL1.3e27L1.3swzL1.3gn2L1.3gn9",
  "L1.3gmsL1.3q3jL1.3gmaL1.3gm9L1.3gm0L1.3gkwL1.s4bL1.3gkzL1.3gjgL1.3ghjL1.3gfiL1.3gjdL1.3gf4",
  "L1.3gdzL1.3gawL1.3gi5L1.3gevL1.3geuL1.3gefL1.rxqL1.rp6L1.rtdL1.3sscL1.3g6vL1.3g6uL1.3g5w",
  "L1.qg1L1.3g3sL1.rcxL1.3sr5L1.3sr2L1.r9bL1.r1bL1.3sqvL1.3fxfL1.3fx4L1.3fwuL1.3fwtL1.3fv2",
  "L1.3fw0L1.3fsbL1.3ftkL1.3fpeL1.3froL1.3fpuL1.3fp4L1.3so8L1.3fmnL1.3flsL1.3sndL1.3fj7L1.3fj5",
  "L1.py6L1.3ffzL1.3fftL1.3slvL1.3ff3L1.3w27L1.pi5L1.pd2L1.3si7L1.3shzL1.3f3jL1.3f1fL1.3ex3",
  "L1.3erhL1.oq3L1.3ep5L1.3eokL1.3em3L1.3ejkL1.o89L1.1brpL1.3ehbL1.3ehrL1.3egcL1.1blrL1.3ea2",
  "L1.3e7bL1.mxaL1.mwkL1.3dxqL1.3dv6L1.3dubL1.mnrL1.3du3L1.3dm7L1.3dhtL2.3dkeL1.3d9uL1.3d93",
  "L1.lpvL1.3cyrL1.3ryyL1.3cxlL1.lfeL1.3rwsL1.3cq8L1.3o02L1.3cnmL1.kohL1.kilL1.3rt6L1.3rsz",
  "L1.3ciiL1.k4xL1.3rreL1.k13T1.u17L2.3cgnL1.jt7L1.3cbkL1.3ro0L1.3c9nL1.3c66L1.3c5gL1.3c3t",
  "L1.3rjuL1.iqhL1.3bw8L1.3bnvL1.3binL1.3rcvL1.3rc1L1.3bfsL1.hmqL1.3rbtL1.hl9L1.hdxL1.hab",
  "L1.3b6iL1.3r9cL1.3b4uL1.3b4qL1.3b4kL1.3b4bL1.3b45L1.3b35L1.gm5X1K15uX3t7K5X6juDf62uX6o"]

/-- The runs of foldings. -/
def foldingRuns : List Run := Run.ofRows foldingRows

/-- Fold a code point that lies in a run; `none` if it is refused. -/
def foldIn? (run : Run) (n : Nat) : Option (List Nat) :=
  match run.letter, run.numbers with
  | 'K', _ => some [n]
  | 'D', _ => some []
  | 'P', _ => some [if (n - run.start) % 2 = 0 then n + 1 else n]
  | 'U', [distance] => some [n + distance]
  | 'L', [distance] => some [n - distance]
  | 'T', text => some text
  | _, _ => none

/-- Fold a character; `none` if it is refused. -/
def fold? (c : Char) : Option (List Char) := do
  let run ← Run.of? foldingRuns c
  return (← foldIn? run c.toNat).map Char.ofNat

/-- Fold a text; `none` if one of its characters is refused. -/
def foldAll? (s : List Char) : Option (List Char) := (s.mapM fold?).map List.flatten

end WebClient.Domain
