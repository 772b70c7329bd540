import SessionHandoff.Text.Digits

/-!
# General categories

The general category of every code point, as runs: a letter for the category and the number of code
points in the run, which is left out if it is one. The runs begin at zero and leave nothing out.
-/

set_option autoImplicit false

namespace SessionHandoff.Characters

/-- The letters that stand for categories. -/
def categoryLetters : List (Char × String) :=
  [('a', "Lu"), ('b', "Ll"), ('c', "Lt"), ('d', "Lm"), ('e', "Lo"), ('f', "Mn"),
    ('g', "Mc"), ('h', "Me"), ('i', "Nd"), ('j', "Nl"), ('k', "No"), ('l', "Pc"),
    ('m', "Pd"), ('n', "Ps"), ('o', "Pe"), ('p', "Pi"), ('q', "Pf"), ('r', "Po"),
    ('s', "Sm"), ('t', "Sc"), ('u', "Sk"), ('v', "So"), ('w', "Zs"), ('x', "Zl"),
    ('y', "Zp"), ('z', "Cc"), ('A', "Cf"), ('B', "Co"), ('C', "Cn"), ('D', "Cs")]

/-- The runs, line by line. -/
def categoryLines : List String :=
  ["z32wr3tr3norsrmr2i10r2s3r2a26nroulub26nsosz33wrt4vruvepsAvuvsk2ubr2ukeqk3ra23sa7b24sb8ab",
    "ababababababababababababababababababababababababababab2abababababababab2abababababababab",
    "abababababababababababababababa2babab3a2baba2ba3b2a4ba2ba3b3a2ba2bababa2bab2aba2ba3baba2",
    "b2eab3e4acbacbacbabababababababab2ababababababababab2acbaba3babababababababababababababa",
    "bababababababababababababababab7a2ba2b2aba4babababab69eb27d18u4d12u14d5u7dudu17f112ababd",
    "uabC2db3raC4u2ara3CaCa2ba17Ca9b35ab2a3b3abababababababababababab5absaba2b2a51b48abababab",
    "abababababababababababababvf5h2abababababababababababababababababababababababababababa2b",
    "abababababab2abababababababababababababababababababababababababababababababababababababa",
    "bababababababababababCa38C2dr6b41rmC2v2tCf45mfrf2rf2rfC8e27C4e4r2C11A6s3r2tr2v2f11rAr3",
    "e32de10f21i10r4e2fe99ref7Avf6d2f2vf4e2i10e3v2er14CAefe30f27C2e89f11eC14i10e33f9d2vr3dC2f",
    "t2e22f4df9df3df5C2r15Ce25f3C2rCe11C5e24ue6CA2C6f8e41df24Af32ge54fgfeg3f8g4fg2ef7e10f2r2",
    "i10rde15fg2Ce8C2e2C2e22Ce7CeC3e4C2feg3f4C2g2C2g2feC8gC4e2Ce3f2C2i10e2t2k6vterfC2f2gCe6C4",
    "e2C2e22Ce7Ce2Ce2Ce2C2fCg3f2C4f2C2f3C3fC7e4CeC7i10f2e3frC10f2gCe9Ce3Ce22Ce7Ce2Ce5C2feg3f5",
    "Cf2gCg2fC2eC15e2f2C2i10rtC7ef6Cfg2Ce8C2e2C2e22Ce7Ce2Ce5C2fegfgf4C2g2C2g2fC7f2gC4e2Ce3f2",
    "C2i10vek6C10feCe6C3e3Ce4C3e2CeCe2C3e2C3e3C3e12C4g2fg2C3g3Cg3fC2eC6gC14i10k3v6tvC5fg3fe8C",
    "e3Ce23Ce16C2fef3g4Cf3Cf4C7f2Ce3C2eC2e2f2C2i10C7rk7vefg2re8Ce3Ce23Ce10Ce5C2fegfg5Cfg2Cg2",
    "f2C7g2C6e2Ce2f2C2i10Ce2C13f2g2e9Ce3Ce41f2eg3f4Cg3Cg3fevC4e3gk7e3f2C2i10k9ve6Cfg2Ce18C3",
    "e24Ce9CeC2e7C3fC4g3f3CfCg8C6i10C2g2rC12e48fe2f7C4te6df8ri10r2C37e2CeCe5Ce24CeCe10fe2f9e",
    "C2e5CdCf6C2i10C2e4C32ev3r15vrv3f2v6i10k10vfvfvfnonog2e8Ce36C4f14gf5rf2e5f11Cf36Cv8fv6Cv2",
    "r5v4r2C37e43g2f4gf6gf2g2f2ei10r6e6g2f2e4f3eg3e2g7e3f4e13fg2f2g6fegi10g3fv2a38CaC5aC2b43r",
    "db3e329Ce4C2e7CeCe4C2e41Ce4C2e33Ce4C2e7CeCe4C2e15Ce57Ce4C2e67C2f3r9k20C3e16v10C6a86C2b6",
    "C2me620vre17we26noC3e75r3j3e8C7e18f3gC9e19f2gr2C9e18f2C12e13Ce3Cf2C12e52f2gf7g8fg2f11r3d",
    "r3tefC2i10C6k10C6r6mr4f3Afi10C6e35de53C7e5f2e34feC5e70C10e31Cf3g4f2g3C4g2fg6f3C4vC3r2i10",
    "e30C2e5C11e44C4e26C6i10kC3v34e23f2g2fC2r2e53gfgf7Cfgfg2f8g6f10C2fi10C6i10C6r7dr6C2f14h",
    "f16C49f4ge47fgf5gfg5fg2e8C3i10r7v10f9v9r2Cf2ge30gf4g2f2gf3e2i10e44fgf2g3fgf3g2C8r4e36g8",
    "f8g2f2C3r5i10C3e3i10e30d6r2b9C7a43C2a3r8C8f3rf13gf7e4fe6fe2gf2eC5b44d63b13db34d37f64abab",
    "abababababababababababababababababababababababababababababababababababababababababababab",
    "ababababababababababababababababababababababababababababab9ababababababababababababababa",
    "babababababababababababababababababababababababababababababababababab9a8b6C2a6C2b8a8b8a8",
    "b6C2a6C2b8CaCaCaCab8a8b14C2b8c8b8c8b8c8b5Cb2a4cubu3b3Cb2a4cu3b4C2b2a4Cu3b8a5u3C2b3Cb2a4c",
    "u2Cw11A5m6r2pqnp2qnpr8xyA5wr9pqr4l2r3snor11srlr10wA5CA10kdC2k6s3nodk10s3noCd13C3t33C15",
    "f13h4fh3f12C15v2av4av2ba3b2a3bvav2sa5v6avavava4vba4be4bv2b2a2s5ab4vsv2bvk16j35abj4kv2C4",
    "s5v5s2v4sv2sv2sv7sv31s2v2svsv31s268v8nonov20s2v7nov81sv30s25v40s6v69C25v11C21k60v78k22",
    "v183sv9sv54s8v111sv248nononononononok30v44s5nos31nononononos16v256s131nonononononononono",
    "nonos63nonos32nos258v48s21v2s6v39C2v32Cv105a48b48aba3b2abababa4bab2ab6d2a3bababababababa",
    "babababababababababababababababababababababababababababababababababababababababababab2v6",
    "ababf3abC5r4kr2b38CbC5bC2e56C7drC14fe23C9e7Ce7Ce7Ce7Ce7Ce7Ce7Ce7Cf32r2pqpqr3pqrpqr9mr2mr",
    "pqr2pqnonononor5dr10m2r4mrnr13v2r3nonononomC34v26Cv89C12v214C26v12C4wr3vdejnononononov2n",
    "onononomno2vj9f4g2md5v2j3derv2Ce86C2f2u2d2eme90rd3eC5e43Ce94Cv2k4v10e32v36C12e16v31Ck10",
    "v30k8vk15v32k10v39k15v320e6592v64e21013de1143C3v55C9e40d6r2e268dr3e16i10e2C20abababababa",
    "babababababababababababababababababefh3rf10rdababababababababababababababd2f2e70j10f2r6",
    "C8u23d9u2ababababababab3abababababababababababababababababababababababababababababababd",
    "b8ababa2bababababdu2ababeabab3ababababababababababa5ba5babababababababa4babC5abCbCbabab",
    "C24d3abed2be7fe3fe4fe23g2f2gv4fC3k6v2tvC6e52r4C8g2e50g16f2C8r2i10C6f18e6r3ere2fi10e28f8",
    "r2e23f11g2C11re29C3f3ge47fg2f4g2f2g3r13Cdi10C4r2e5fde9i10e5Ce41f6g2f2g2f2C9e3fe8fgC2i10",
    "C2r4e16de6v3egfge50fef3e2f2e5f2efeC24e2dr2e11gf2g2r2ed2gfC10e6C2e6C2e6C9e7Ce7Cb43ud4b9d",
    "u2C4b80e35g2fg2fg2rgfC2i10C6e11172C12e23C4e49C4D2048B6400e366C2e106C38b7C12b5C5efe10se13",
    "Ce5CeCe2Ce2Ce108u17C16e363onv16e64C2e54C7vC32e12tv3f16r7norC6f16rm2l2nonononononononor2n",
    "or4l3r3Cr4mnononor3sms3Crtr2C4e5Ce135C2ACr3tr3norsrmr2i10r2s3r2a26nroulub26nsosnornor2",
    "e10de45d2e31C3e6C2e6C2e6C2e3C3t2suvt2Cvs4v2C10A3v2C2e12Ce26Ce19Ce2Ce15C2e14C34e123C5r3C4",
    "k45C3v9j53k4v17k2v3Cv13C3vC47v45fC130e29C3e49C15fk27C4e32k4C9e20je8jC5e38f5C5e30Cre36C4",
    "e8rj5C42a40b40e78C2i10C6a36C4b36C4e40C8e52C11ra11Ca15Ca7Ca2Cb11Cb15Cb7Cb2C67e311C9e22C10",
    "e8C24d6Cd42Cd9C69e6C2eCe44Ce2C3eC2e23Crk8e23v2k7e31C8k9C48e19Ce2C5k5e22k6C3re26C5rC64e56",
    "C4k2e2k16C2k46ef3Cf2C5f4e4Ce3Ce29C2f3C4fk9C7r9C7e29k2re29k3C32e8ve28f2C4k5r7C9e54C3r7e22",
    "C2k8e19C5k8e18C7r4C12k7C80e73C55a51C13b51C7k6e36f4C8i10C294k31Ce42Cf2mC2e2C78e29k10eC8",
    "e22f11k4r5C22e18f4r4C38e21k7C20e23C9gfge53f15r7C4k20i10fe2f2eC9f3ge45g3f4g2f2r2Ar4fC10A",
    "C2e25C7i10C6f3e36f5gf8Ci10r4eg2eC8e35fr2eC9f2ge48g3f9g2e4r4f4rgfi10erer3Ck20C11e18Ce25g3",
    "f3g2fgf2r6fC65e7CeCe4Ce15Ce10rC6e47fg3f8C5i10C6f2g2Ce8C2e2C2e22Ce7Ce2Ce5Cf2eg2fg4C2g2C2",
    "g3C2eC6gC5e5g2C2f7C3f5C139e53g3f8g2f3gfe4r5i10r2Crfe3C30e48g3f6gfg4f2gf2e2reC8i10C166e47",
    "g3f4C2g4f2gf2r23e4f2C34e48g3f8g2fgf2r3eC11i10C6r13C19e43fgfg2f6gferC6i10C54e27C2f3g2f4g",
    "f5C4i10k2r3ve7C185e44g3f9gf2rC100a32b32i10k9C12e8C2eC2e8Ce2Ce24g6Cg2C2f2gfegegfr3C9i10",
    "C70e8C2e39g3f4C2f2g4feregC27ef10e40f6gef4r8fC8ef6g2f3e46f13gf2r3er5C13e73C263e9Ce37gf7C",
    "f6gfer5C10i10k19C3r2e30C2f22Cgf7gf2gf2C73e7Ce2Ce38f6C3fCf2Cf7efC8i10C6e6Ce2Ce32g5Cf2Cg2f",
    "gfeC7i10C310e19f2g2r2C183eC15k21v8t4v17C13re922C102j111Cr5C11e196C2636e97r2C13e1071CA9",
    "C4039e583C8633e569C7e31Ci10C4r2e79Ci10C6e30C2f5rC10e48f7r5v4d4rvC10i10Ck7Ce21C5e19C688",
    "a32b32k23r4C101e75C4feg55C7f4d13C64d2rdfC11g2C14e6136C8e1238C42e9C8935d4Cd7Cd2Ce291C45e3",
    "C17e4C8e396C2308e107C5e13C3e9C7e10C2vf2rA4C4700f46C2f23C9v116C60v246C10v39C2v60g2f3v3g6",
    "A8f8v2f7v30f4v61C21v66f3vC154k20C12v87C9k25C135a26b26a26b7Cb18a26b26aCa2C2aC2a2C2a4Ca8b4",
    "CbCb7Cb11a26b26a2Ca4C2a8Ca7Cb26a2Ca4Ca5CaC3a7Cb26a26b26a26b26a26b26a26b26a26b26a26b28C2",
    "a25sb25sb6a25sb25sb6a25sb25sb6a25sb25sb6a25sb25sb6abC2i50v512f55v4f50v8fv14fv2r5C15f5C",
    "f15C1104b10eb20C225f7Cf17C2f7Cf2Cf5C213e45C3f7d7C2i10C4evC320e30fC17e44f4i10C5tC1248e7C",
    "e4Ce2Ce15Ce197C2k9f7C41a34b34f7dC4i10C4r2C785k59vk3tk4C76k45vk15C194e4Ce27Ce2CeC2eCe10C",
    "e4CeCeC6eC4eCeCeCe3Ce2CeC2eCeCeCeCeCe2CeC2e4Ce7Ce4Ce4CeCe10Ce17C5e3Ce5Ce17C52s2C270v44C4",
    "v100C12v15C2v15Cv15Cv37C10k13v161C56v29C13v44C4v9C7v2C14v6C154v251u5v728C5v16C3v13C3v116",
    "C12v89C7v12C4vC15v12C4v56C8v10C6v40C8v30C2v2C78v340C12v14C2v5C3v5C3v7C9v29C3v11C5v6C10",
    "v10C6v8C8v7C9v147Cv55C37i10C1030e42720C32e4153C7e222C2e5762C14e7473C3103e542C1506e4939",
    "C715958AC30A96C128f240C65040B65534C2B65534C2"]

/-- The runs that a text says: for each the code point after it, and its category. Those before them
end at a code point that is given; the length of the text bounds their number. -/
def readRuns : Nat → Nat → List Char → List (Nat × String)
  | 0, _, _ => []
  | _ + 1, _, [] => []
  | fuel + 1, start, letter :: rest =>
    let digits := rest.takeWhile Char.isDigit
    let stop := start + (Text.natural? digits).getD 1
    (stop, (categoryLetters.lookup letter).getD "Cn") ::
      readRuns fuel stop (rest.drop digits.length)

/-- All runs. -/
def categoryRuns : List (Nat × String) :=
  let text := categoryLines.flatMap String.toList
  readRuns text.length 0 text

/-- The category of a code point: two letters, of which the first is a category of its own. -/
def category (n : Nat) : String :=
  ((categoryRuns.find? fun r => n < r.1).map (·.2)).getD "Cn"

end SessionHandoff.Characters
