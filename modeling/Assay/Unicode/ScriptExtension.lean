import Assay.Unicode.Ranges

/-!
# Script extensions

Characters that several scripts share, or that are used with one script and belong to none, as the
Unicode 16 property `Script_Extensions` lists them: the four-letter codes of the scripts, and the
packed set of code points. The value of all other characters is their script.
-/

namespace Assay.Unicode

/-- The scripts that share characters, and the characters. -/
def scriptExtensions : List NamedSet := [
  ⟨["Avst", "Cari", "Copt", "Dupl", "Elba", "Geor", "Glag", "Gong", "Goth", "Grek", "Hani",
    "Latn", "Lydi", "Mahj", "Perm", "Shaw"], [
    "53 0"]⟩,
  ⟨["Beng", "Cyrl", "Deva", "Latn", "Lisu", "Thai", "Toto"], [
    "jg 0"]⟩,
  ⟨["Bopo", "Latn"], [
    "jr 0 1 2 d 0"]⟩,
  ⟨["Latn", "Lisu"], [
    "jx 0"]⟩,
  ⟨["Latn", "Thai"], [
    "k7 0"]⟩,
  ⟨["Cher", "Copt", "Cyrl", "Grek", "Latn", "Perm", "Sunu", "Tale"], [
    "lc 0"]⟩,
  ⟨["Cher", "Cyrl", "Grek", "Latn", "Osge", "Sunu", "Tale", "Todr"], [
    "ld 0"]⟩,
  ⟨["Cher", "Cyrl", "Latn", "Tfng"], [
    "le 0"]⟩,
  ⟨["Glag", "Latn", "Sunu", "Syrc", "Thai"], [
    "lf 0"]⟩,
  ⟨["Aghb", "Cher", "Copt", "Cyrl", "Goth", "Grek", "Latn", "Osge", "Syrc", "Tfng", "Todr"], [
    "lg 0"]⟩,
  ⟨["Copt", "Elba", "Glag", "Goth", "Kana", "Latn"], [
    "lh 0"]⟩,
  ⟨["Cyrl", "Grek", "Latn", "Perm", "Tfng"], [
    "li 0"]⟩,
  ⟨["Copt", "Dupl", "Hebr", "Latn", "Perm", "Syrc", "Tale", "Tfng", "Todr"], [
    "lj 0"]⟩,
  ⟨["Armn", "Cyrl", "Dupl", "Goth", "Grek", "Hebr", "Latn", "Perm", "Syrc", "Tale", "Tfng"], [
    "lk 0"]⟩,
  ⟨["Latn", "Tfng"], [
    "ll 0"]⟩,
  ⟨["Dupl", "Latn", "Syrc"], [
    "lm 0"]⟩,
  ⟨["Cher", "Cyrl", "Latn", "Osge"], [
    "ln 0"]⟩,
  ⟨["Cher", "Latn", "Tale"], [
    "lo 0"]⟩,
  ⟨["Latn", "Sunu"], [
    "lp 0 2 0"]⟩,
  ⟨["Ethi", "Latn"], [
    "lq 0"]⟩,
  ⟨["Cyrl", "Latn", "Todr"], [
    "lt 0"]⟩,
  ⟨["Grek", "Latn", "Perm", "Todr"], [
    "lv 0"]⟩,
  ⟨["Cher", "Dupl", "Kana", "Latn", "Syrc", "Tfng"], [
    "mb 0"]⟩,
  ⟨["Cher", "Dupl", "Latn", "Syrc"], [
    "mc 0"]⟩,
  ⟨["Latn", "Syrc"], [
    "md 0 8 0"]⟩,
  ⟨["Latn", "Sunu", "Syrc"], [
    "ml 0"]⟩,
  ⟨["Cher", "Latn", "Syrc"], [
    "mo 0"]⟩,
  ⟨["Aghb", "Cher", "Goth", "Latn", "Sunu", "Syrc", "Thai"], [
    "mp 0"]⟩,
  ⟨["Grek"], [
    "n6 0 2 0 58a 1"]⟩,
  ⟨["Latn", "Osge"], [
    "ns 0"]⟩,
  ⟨["Aghb", "Latn", "Todr"], [
    "ny 0"]⟩,
  ⟨["Latn"], [
    "o3 c"]⟩,
  ⟨["Copt", "Grek"], [
    "ok 1"]⟩,
  ⟨["Cyrl", "Perm"], [
    "w3 0"]⟩,
  ⟨["Cyrl", "Glag"], [
    "w4 0 2 0 88r 0 nqj 0"]⟩,
  ⟨["Cyrl", "Latn"], [
    "w5 1"]⟩,
  ⟨["Armn", "Geor", "Glag"], [
    "13d 0"]⟩,
  ⟨["Arab", "Gara", "Nkoo", "Rohg", "Syrc", "Thaa", "Yezi"], [
    "170 0 e 0"]⟩,
  ⟨["Arab", "Syrc", "Thaa"], [
    "17g 0"]⟩,
  ⟨["Adlm", "Arab", "Gara", "Nkoo", "Rohg", "Syrc", "Thaa", "Yezi"], [
    "17j 0"]⟩,
  ⟨["Adlm", "Arab", "Mand", "Mani", "Ougr", "Phlp", "Rohg", "Sogd", "Syrc"], [
    "18g 0"]⟩,
  ⟨["Arab", "Syrc"], [
    "18r a q 0"]⟩,
  ⟨["Arab", "Thaa", "Yezi"], [
    "19c 9"]⟩,
  ⟨["Arab", "Rohg"], [
    "1ck 0"]⟩,
  ⟨["Beng", "Deva", "Gran", "Gujr", "Guru", "Knda", "Latn", "Mlym", "Nand", "Newa", "Orya",
    "Shrd", "Taml", "Telu", "Tirh"], [
    "1u9 0"]⟩,
  ⟨["Beng", "Deva", "Gran", "Gujr", "Guru", "Knda", "Latn", "Mlym", "Newa", "Orya", "Taml",
    "Telu", "Tirh"], [
    "1ua 0"]⟩,
  ⟨["Beng", "Deva", "Dogr", "Gong", "Gonm", "Gran", "Gujr", "Guru", "Knda", "Mahj", "Mlym",
    "Nand", "Onao", "Orya", "Sind", "Sinh", "Sylo", "Takr", "Taml", "Telu", "Tirh"], [
    "1us 0"]⟩,
  ⟨["Beng", "Deva", "Dogr", "Gong", "Gonm", "Gran", "Gujr", "Gukh", "Guru", "Knda", "Limb",
    "Mahj", "Mlym", "Nand", "Onao", "Orya", "Sind", "Sinh", "Sylo", "Takr", "Taml", "Telu",
    "Tirh"], [
    "1ut 0"]⟩,
  ⟨["Deva", "Dogr", "Kthi", "Mahj"], [
    "1uu 9"]⟩,
  ⟨["Beng", "Cakm", "Sylo"], [
    "1ye 9"]⟩,
  ⟨["Guru", "Mult"], [
    "21y 9"]⟩,
  ⟨["Gujr", "Khoj"], [
    "25i 9"]⟩,
  ⟨["Gran", "Taml"], [
    "2cm d 1fyl 0 1 0 1j 1 2hf 1 1 0"]⟩,
  ⟨["Knda", "Nand", "Tutg"], [
    "2jq 9"]⟩,
  ⟨["Cakm", "Mymr", "Tale"], [
    "37k 9"]⟩,
  ⟨["Geor", "Glag", "Latn"], [
    "3cr 0"]⟩,
  ⟨["Runr"], [
    "4iz 2"]⟩,
  ⟨["Buhd", "Hano", "Tagb", "Tglg"], [
    "4l1 1"]⟩,
  ⟨["Mong", "Phag"], [
    "4qq 1 1 0"]⟩,
  ⟨["Beng", "Deva", "Gran", "Knda"], [
    "5ow 0 1 0"]⟩,
  ⟨["Deva"], [
    "5ox 0 2 0 6 0 2 1 3 5 3 0 1 3"]⟩,
  ⟨["Deva", "Gran", "Knda"], [
    "5oz 0"]⟩,
  ⟨["Beng", "Deva", "Newa", "Telu", "Tirh"], [
    "5p1 0"]⟩,
  ⟨["Beng", "Deva", "Telu"], [
    "5p2 0"]⟩,
  ⟨["Deva", "Newa", "Shrd"], [
    "5p3 0"]⟩,
  ⟨["Beng", "Deva", "Newa", "Telu"], [
    "5p4 0"]⟩,
  ⟨["Deva", "Shrd"], [
    "5p5 0 2 1 2 0"]⟩,
  ⟨["Deva", "Knda", "Mlym", "Orya", "Taml", "Telu"], [
    "5p6 0"]⟩,
  ⟨["Beng", "Deva"], [
    "5pd 0 j 1"]⟩,
  ⟨["Deva", "Newa", "Tirh"], [
    "5pe 0"]⟩,
  ⟨["Deva", "Nand", "Newa"], [
    "5pl 0"]⟩,
  ⟨["Beng", "Deva", "Shrd"], [
    "5pm 0"]⟩,
  ⟨["Deva", "Newa"], [
    "5pn 0"]⟩,
  ⟨["Beng", "Deva", "Newa", "Shrd"], [
    "5pp 0"]⟩,
  ⟨["Beng", "Deva", "Gran", "Knda", "Mlym", "Nand", "Orya", "Sinh", "Telu", "Tirh", "Tutg"], [
    "5pu 0"]⟩,
  ⟨["Deva", "Gran"], [
    "5pv 0 4 1"]⟩,
  ⟨["Deva", "Gran", "Knda", "Tutg"], [
    "5pw 0"]⟩,
  ⟨["Beng"], [
    "5pz 0"]⟩,
  ⟨["Nand"], [
    "5q2 0"]⟩,
  ⟨["Cyrl", "Latn", "Syrc"], [
    "5x4 0"]⟩,
  ⟨["Syrc"], [
    "5x6 0"]⟩,
  ⟨["Latn", "Mong", "Phag"], [
    "6cv 0"]⟩,
  ⟨["Adlm", "Arab"], [
    "6dr 0"]⟩,
  ⟨["Cari", "Geor", "Glag", "Hung", "Lyci", "Orkh"], [
    "6e2 0"]⟩,
  ⟨["Cari", "Grek", "Hung", "Mero"], [
    "6e5 0"]⟩,
  ⟨["Deva", "Gran", "Latn"], [
    "6i8 0"]⟩,
  ⟨["Copt", "Latn"], [
    "93r 0"]⟩,
  ⟨["Avst", "Orkh"], [
    "94g 0"]⟩,
  ⟨["Avst", "Cari", "Geor", "Hung", "Kthi", "Lydi", "Samr"], [
    "94h 0"]⟩,
  ⟨["Dupl"], [
    "94s 0 26oz 3"]⟩,
  ⟨["Adlm", "Arab", "Hung"], [
    "94x 0"]⟩,
  ⟨["Hani", "Tang"], [
    "9gw f dr 0"]⟩,
  ⟨["Bopo", "Hang", "Hani", "Hira", "Kana", "Mong", "Yiii"], [
    "9hd 0"]⟩,
  ⟨["Bopo", "Hang", "Hani", "Hira", "Kana", "Mong", "Phag", "Yiii"], [
    "9he 0"]⟩,
  ⟨["Bopo", "Hang", "Hani", "Hira", "Kana"], [
    "9hf 0 f 0 8 3 g 0 6 0 14p9 1"]⟩,
  ⟨["Hani"], [
    "9hi 0 1j 1 9c f w 11 1m 13 1k 1c f b 1f 0 2g o a 4 2o u 2a1t h 63i 1"]⟩,
  ⟨["Bopo", "Hang", "Hani", "Hira", "Kana", "Mong", "Tibt", "Yiii"], [
    "9hk 1"]⟩,
  ⟨["Bopo", "Hang", "Hani", "Hira", "Kana", "Lisu", "Mong", "Tibt", "Yiii"], [
    "9hm 1"]⟩,
  ⟨["Bopo", "Hang", "Hani", "Hira", "Kana", "Yiii"], [
    "9ho 5 2 7 67 0 14rp 4"]⟩,
  ⟨["Bopo", "Hani"], [
    "9ii 3"]⟩,
  ⟨["Hira", "Kana"], [
    "9ip 4 2r 3 3 0 2j 0 14s3 0 19 1"]⟩,
  ⟨["Hani", "Hira", "Kana"], [
    "9j0 1"]⟩,
  ⟨["Hani", "Latn"], [
    "wzk 7"]⟩,
  ⟨["Deva", "Dogr", "Gujr", "Guru", "Khoj", "Knda", "Kthi", "Mahj", "Mlym", "Modi", "Nand",
    "Shrd", "Sind", "Takr", "Tirh", "Tutg"], [
    "x80 2"]⟩,
  ⟨["Deva", "Dogr", "Gujr", "Guru", "Khoj", "Knda", "Kthi", "Mahj", "Modi", "Nand", "Shrd",
    "Sind", "Takr", "Tirh", "Tutg"], [
    "x83 2"]⟩,
  ⟨["Deva", "Dogr", "Gujr", "Guru", "Khoj", "Kthi", "Mahj", "Modi", "Sind", "Takr", "Tirh"], [
    "x86 1 1 0"]⟩,
  ⟨["Deva", "Dogr", "Gujr", "Guru", "Khoj", "Kthi", "Mahj", "Modi", "Shrd", "Sind", "Takr",
    "Tirh"], [
    "x88 0"]⟩,
  ⟨["Beng", "Deva", "Tutg"], [
    "xdd 0"]⟩,
  ⟨["Deva", "Taml"], [
    "xdf 0"]⟩,
  ⟨["Kali", "Latn", "Mymr"], [
    "xf2 0"]⟩,
  ⟨["Bugi", "Java"], [
    "xjj 0"]⟩,
  ⟨["Arab", "Nkoo"], [
    "1e0u 1"]⟩,
  ⟨["Arab", "Thaa"], [
    "1e5u 0 a 0"]⟩,
  ⟨["Cpmn", "Cprt", "Linb"], [
    "1erk 1"]⟩,
  ⟨["Cprt", "Linb"], [
    "1erm 0 1g 8"]⟩,
  ⟨["Cprt", "Lina", "Linb"], [
    "1err 18"]⟩,
  ⟨["Arab", "Copt"], [
    "1f4w r"]⟩,
  ⟨["Mani", "Ougr"], [
    "1gqa 0"]⟩]

end Assay.Unicode
