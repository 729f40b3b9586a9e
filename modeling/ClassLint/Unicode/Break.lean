import ClassLint.Unicode.Property

/-! What code points are for the division of a text into characters, words and sentences. -/

namespace ClassLint.Unicode

def graphemeBreaks : List Property := [
  .listed ["cr"]
    "d",
  .listed ["cn", "control"]
    "0+9 1+1 1+11 5f+20 d 56e 11f1 7fc 2+1 18+6 31+f de8f f0+b 3434+f 8860+3 14cf+7 c2e85+1f
      60+7f f0+e0f",
  ⟨["ex", "extend"], [.mn, .me],
    "9be 18 166 18 66 18 e8 1 4+1 1+1 9+1 67 18 77 f 935 1e 400 5 1 5+1 65 47+1 418 1021+1
      7923 6c 55dd+1 1220 74 108 e 9 60 9 2 1+2 5 e0 c f1 106 279 c 603 50ae+1 6173+1 6+5
      2288+4 c0c20+5f",
    ""⟩,
  .listed ["l"]
    "1100+5f 9800+1c",
  .listed ["lf"]
    "a",
  .listed ["lv"]
    "ac00 1b 1b 1b 1b 1b 1b 1b 1b 1b 1b 1b 1b 1b 1b 1b 1b 1b 1b 1b 1b 1b 1b 1b 1b 1b 1b 1b 1b
      1b 1b 1b 1b 1b 1b 1b 1b 1b 1b 1b 1b 1b 1b 1b 1b 1b 1b 1b 1b 1b 1b 1b 1b 1b 1b 1b 1b 1b
      1b 1b 1b 1b 1b 1b 1b 1b 1b 1b 1b 1b 1b 1b 1b 1b 1b 1b 1b 1b 1b 1b 1b 1b 1b 1b 1b 1b 1b
      1b 1b 1b 1b 1b 1b 1b 1b 1b 1b 1b 1b 1b 1b 1b 1b 1b 1b 1b 1b 1b 1b 1b 1b 1b 1b 1b 1b 1b
      1b 1b 1b 1b 1b 1b 1b 1b 1b 1b 1b 1b 1b 1b 1b 1b 1b 1b 1b 1b 1b 1b 1b 1b 1b 1b 1b 1b 1b
      1b 1b 1b 1b 1b 1b 1b 1b 1b 1b 1b 1b 1b 1b 1b 1b 1b 1b 1b 1b 1b 1b 1b 1b 1b 1b 1b 1b 1b
      1b 1b 1b 1b 1b 1b 1b 1b 1b 1b 1b 1b 1b 1b 1b 1b 1b 1b 1b 1b 1b 1b 1b 1b 1b 1b 1b 1b 1b
      1b 1b 1b 1b 1b 1b 1b 1b 1b 1b 1b 1b 1b 1b 1b 1b 1b 1b 1b 1b 1b 1b 1b 1b 1b 1b 1b 1b 1b
      1b 1b 1b 1b 1b 1b 1b 1b 1b 1b 1b 1b 1b 1b 1b 1b 1b 1b 1b 1b 1b 1b 1b 1b 1b 1b 1b 1b 1b
      1b 1b 1b 1b 1b 1b 1b 1b 1b 1b 1b 1b 1b 1b 1b 1b 1b 1b 1b 1b 1b 1b 1b 1b 1b 1b 1b 1b 1b
      1b 1b 1b 1b 1b 1b 1b 1b 1b 1b 1b 1b 1b 1b 1b 1b 1b 1b 1b 1b 1b 1b 1b 1b 1b 1b 1b 1b 1b
      1b 1b 1b 1b 1b 1b 1b 1b 1b 1b 1b 1b 1b 1b 1b 1b 1b 1b 1b 1b 1b 1b 1b 1b 1b 1b 1b 1b 1b
      1b 1b 1b 1b 1b 1b 1b 1b 1b 1b 1b 1b 1b 1b 1b 1b 1b 1b 1b 1b 1b 1b 1b 1b 1b 1b 1b 1b 1b
      1b 1b 1b 1b 1b 1b 1b 1b 1b 1b 1b 1b 1b 1b 1b 1b 1b 1b 1b 1b 1b 1b",
  .listed ["lvt"]
    "ac01+1a 1+1a 1+1a 1+1a 1+1a 1+1a 1+1a 1+1a 1+1a 1+1a 1+1a 1+1a 1+1a 1+1a 1+1a 1+1a 1+1a
      1+1a 1+1a 1+1a 1+1a 1+1a 1+1a 1+1a 1+1a 1+1a 1+1a 1+1a 1+1a 1+1a 1+1a 1+1a 1+1a 1+1a
      1+1a 1+1a 1+1a 1+1a 1+1a 1+1a 1+1a 1+1a 1+1a 1+1a 1+1a 1+1a 1+1a 1+1a 1+1a 1+1a 1+1a
      1+1a 1+1a 1+1a 1+1a 1+1a 1+1a 1+1a 1+1a 1+1a 1+1a 1+1a 1+1a 1+1a 1+1a 1+1a 1+1a 1+1a
      1+1a 1+1a 1+1a 1+1a 1+1a 1+1a 1+1a 1+1a 1+1a 1+1a 1+1a 1+1a 1+1a 1+1a 1+1a 1+1a 1+1a
      1+1a 1+1a 1+1a 1+1a 1+1a 1+1a 1+1a 1+1a 1+1a 1+1a 1+1a 1+1a 1+1a 1+1a 1+1a 1+1a 1+1a
      1+1a 1+1a 1+1a 1+1a 1+1a 1+1a 1+1a 1+1a 1+1a 1+1a 1+1a 1+1a 1+1a 1+1a 1+1a 1+1a 1+1a
      1+1a 1+1a 1+1a 1+1a 1+1a 1+1a 1+1a 1+1a 1+1a 1+1a 1+1a 1+1a 1+1a 1+1a 1+1a 1+1a 1+1a
      1+1a 1+1a 1+1a 1+1a 1+1a 1+1a 1+1a 1+1a 1+1a 1+1a 1+1a 1+1a 1+1a 1+1a 1+1a 1+1a 1+1a
      1+1a 1+1a 1+1a 1+1a 1+1a 1+1a 1+1a 1+1a 1+1a 1+1a 1+1a 1+1a 1+1a 1+1a 1+1a 1+1a 1+1a
      1+1a 1+1a 1+1a 1+1a 1+1a 1+1a 1+1a 1+1a 1+1a 1+1a 1+1a 1+1a 1+1a 1+1a 1+1a 1+1a 1+1a
      1+1a 1+1a 1+1a 1+1a 1+1a 1+1a 1+1a 1+1a 1+1a 1+1a 1+1a 1+1a 1+1a 1+1a 1+1a 1+1a 1+1a
      1+1a 1+1a 1+1a 1+1a 1+1a 1+1a 1+1a 1+1a 1+1a 1+1a 1+1a 1+1a 1+1a 1+1a 1+1a 1+1a 1+1a
      1+1a 1+1a 1+1a 1+1a 1+1a 1+1a 1+1a 1+1a 1+1a 1+1a 1+1a 1+1a 1+1a 1+1a 1+1a 1+1a 1+1a
      1+1a 1+1a 1+1a 1+1a 1+1a 1+1a 1+1a 1+1a 1+1a 1+1a 1+1a 1+1a 1+1a 1+1a 1+1a 1+1a 1+1a
      1+1a 1+1a 1+1a 1+1a 1+1a 1+1a 1+1a 1+1a 1+1a 1+1a 1+1a 1+1a 1+1a 1+1a 1+1a 1+1a 1+1a
      1+1a 1+1a 1+1a 1+1a 1+1a 1+1a 1+1a 1+1a 1+1a 1+1a 1+1a 1+1a 1+1a 1+1a 1+1a 1+1a 1+1a
      1+1a 1+1a 1+1a 1+1a 1+1a 1+1a 1+1a 1+1a 1+1a 1+1a 1+1a 1+1a 1+1a 1+1a 1+1a 1+1a 1+1a
      1+1a 1+1a 1+1a 1+1a 1+1a 1+1a 1+1a 1+1a 1+1a 1+1a 1+1a 1+1a 1+1a 1+1a 1+1a 1+1a 1+1a
      1+1a 1+1a 1+1a 1+1a 1+1a 1+1a 1+1a 1+1a 1+1a 1+1a 1+1a 1+1a 1+1a 1+1a 1+1a 1+1a 1+1a
      1+1a 1+1a 1+1a 1+1a 1+1a 1+1a 1+1a 1+1a 1+1a 1+1a 1+1a 1+1a 1+1a 1+1a 1+1a 1+1a 1+1a
      1+1a 1+1a 1+1a 1+1a 1+1a 1+1a 1+1a 1+1a 1+1a 1+1a 1+1a 1+1a 1+1a 1+1a 1+1a 1+1a 1+1a
      1+1a 1+1a 1+1a 1+1a 1+1a 1+1a 1+1a 1+1a 1+1a 1+1a 1+1a 1+1a 1+1a 1+1a 1+1a 1+1a 1+1a
      1+1a 1+1a 1+1a 1+1a 1+1a 1+1a 1+1a 1+1a",
  .listed ["pp", "prepend"]
    "600+5 d7 31 180+1 50 46b 1036e f f4+1 20d 56d 1 f8 49+5 2bc 1bb",
  .listed ["ri", "regionalindicator"]
    "1f1e6+19",
  ⟨["sm", "spacingmark"], [.mc],
    "e33 7f",
    "9be 18 166 18 66 18 e8 1 4+1 1+1 9+1 67 18 77 f 24b+1 b 29+2 2+6 15 3+5 2 a+2 678 1e 32c
      1+1 d0 5 1 5+1 65 47+1 143a+1 7923 6c ba 1 6742 74 108 e 9 60 9 2 1+2 5 e0 c f1 106 69+1
      20e c 603 50ae+1 6173+1 6+5"⟩,
  .listed ["t"]
    "11a8+57 c5cb+30",
  .listed ["v"]
    "1160+47 c608+16 959c 3+3",
  .listed ["zwj"]
    "200d"]

def wordBreaks : List Property := [
  ⟨["le", "aletter"], [.lu, .ll, .lt, .lm],
    "aa f 100 4+3 d0 2d+3 c+5 6+1 5+6 1 1+10 25a+2 1 2b 68 2c+1f 1+9 23+1 1+62 1 18+1 a+2 2
      f+1 1+1d 1d+58 b 18+20 15+15 2a+18 7+a 5+17 1+5 11+28 3b+35 3 12 7+9 10+e 4+7 2+1 2+15
      1+6 1 3+3 3 10 d+1 1+2 e+1 a 8+5 4+1 2+15 1+6 1+1 1+1 1+1 1f+3 1 13+2 10+8 1+2 1+15 1+6
      1+1 1+4 3 12 f+1 17 b+7 2+1 2+15 1+6 1+1 1+4 3 1e+1 1+2 f 11 1+5 3+2 1+3 3+1 1 1+1 3+1
      3+2 3+b 16 34+7 1+2 1+16 1+f 3 1a+2 2 2+1 1e 4+7 1+2 1+16 1+9 1+4 3 1f+1 1+1 f+1 11+8
      1+2 1+28 2 10 5+2 8+2 18+5 5+11 3+17 1+8 1 2+6 139 3f+7 1+23 1b+4 173+148 1+3 2+6 1 1+3
      2+28 1+3 2+20 1+3 2+6 1 1+3 2+e 1+38 1+3 2+42 25+f 71+26b 2+10 1+19 5+4a 3+a 7+11 d+12
      e+11 e+c 1+2 af+22 1+34 7+4 2+21 1 5+45 a+1e e1+16 ee+2e 11+7 36+1d d+1 a+2b 1a+23 29+2
      a+1d 71+3 1+5 1+1 3 43a+3 27+22 2+3 32d+33 846+37 18+16 9+6 1+6 1+6 1+6 1+6 1+6 1+6 1+6
      25d c8+2a 1+5d 11+1f 6e40+14 1+476 43+27 8+10b 4+f a+1 42 31+4f 18+e 9+1 67+1 4 67 3+6
      1+2 1+3 1+16 1d+33 e+31 3e+5 3 1+1 b+1b a+16 19+1c 7+2e 4d+28 17+2 1+7 94+a 7 e+5 2+5
      2+5 9+6 1+6 2c 64+22 1d+2ba3 c+16 4+30 2354+61 21+16a 12+3f 2+35 28+b 74+4 1+86 a3+1e
      3+5 2+5 2+5 2+2 23+b 1+19 1+12 1+1 1+e 2+d 22+7a 45+34 10b+1c 3+30 2f+1f d+1d 5+25 a+1d
      2+23 4+7 1+4 7a+4d 62+27 8+33 5c+33 c+136 9+15 a+7 98+5 2 1+2b 1+1 3 2+16 a+16 9+1e
      41+12 1+1 a+15 a+19 46+37 6+1 40 f+3 1+2 1+1c 2a+1c 3+1c 23+7 1+1b 1b+35 a+15 a+12 d+11
      6e+48 b7+23 26+3 1 130+29 6+1 10+2 3b+1c a 8+15 2a+11 2e+14 1b+16 c+34 39+1 2 d+2c 20+18
      1a+23 1d 2 8+22 3 c+2f e+3 15 1 23+11 1+18 13+1 3f+6 1 1+3 1+e 1+9 7+2e 26+7 2+1 2+15
      1+6 1+1 1+4 3 12 c+4 1e+9 1 2 1+25 1 19 1 2c+34 12+3 14+2 1e+2f 14+1 1 b8+2e 29+3 24+2f
      14 3b+2a d 147+2b d3+7 2 2+7 1+1 1+17 f 1 5e+7 2+26 10 1 1c a+27 7 15 b+2d 13 12+48
      c7+20 1f+8 1+24 11 31+1d 70+6 1+1 1+25 15 19+5 1+1 1+1f e 147+12 f 1+c 1+21 7c 4f+399
      66+6e 11+c3 a4c+60 f+42f 11+5 19+f9a 5+246 1ab9+1d 6e2+238 7+1e 11+4e 11+1d 12+2f 33+14
      5+12 1b3+27 195+4a 5 4caf+6a 5+c 3+8 7+9 2270 1f5+2c 21 141+1d 12+2b 1e4+1a e5+1d 2
      1ef+6 1+3 1+1 1+e 1+c4 53b+3 1+1a 1+1 1 2 1+9 1+3 1 1 6 4 1 1 1+2 1+1 1 2 1 1 1 1 1+1 1
      2+3 1+6 1+3 1+3 1 1+9 1+10 5+2 1+4 1+10 274+19 6+19 6+19",
    "e46 7f 910 2cf 1589+4 67+1 5d+2 78e7 89 6c 5492 2d+1 b050+3 1+6 1+1"⟩,
  .listed ["cr"]
    "d",
  .listed ["dq", "doublequote"]
    "22",
  ⟨["extend"], [.mn, .mc, .me],
    "200c df91+1 f45b+4 c0c20+5f",
    ""⟩,
  .listed ["ex", "extendnumlet"]
    "5f 1fcf f+1 13 ddde+1 18+2 ef",
  ⟨["fo", "format"], [.cf],
    "",
    "600+5 d7 31 180+1 50 1728+2 f0af f cef52+5f"⟩,
  .listed ["hl", "hebrewletter"]
    "5d0+1a 4+3 f52a 1+9 1+c 1+4 1 1+1 1+1 1+9",
  .listed ["ka", "katakana"]
    "3031+4 65+1 3+5a 1+3 f0+f d0+2e 1+57 cc0e+37 b052+3 1+6 1+1 1 11f+2 32 e+3",
  .listed ["lf"]
    "a",
  .listed ["ml", "midletter"]
    "3a 7c 2cf 1d7 94 1a32 ddeb 41 c4",
  .listed ["mn", "midnum"]
    "2c e 342 20a 82+1 5e 18b 184b de0b 3 b7 e",
  .listed ["mb", "midnumlet"]
    "2e 1fe9+1 a de2d b4 6",
  .listed ["nl", "newline"]
    "b+1 78 1fa2+1",
  ⟨["nu", "numeric"], [.nd],
    "600+5 65 71 1b2+1 50 10f7 f6e2 f",
    ""⟩,
  .listed ["ri", "regionalindicator"]
    "1f1e6+19",
  .listed ["sq", "singlequote"]
    "27",
  .listed ["wsegspace"]
    "20 165f 97f+6 1+2 54 fa0",
  .listed ["zwj"]
    "200d"]

def sentenceBreaks : List Property := [
  .listed ["at", "aterm"]
    "2e 1ff5 de2d bb",
  .listed ["cr"]
    "d",
  ⟨["cl", "close"], [.ps, .pe, .pi, .pf],
    "22 4 2733+5 69f+1 4+2 2 1c86a+2",
    ""⟩,
  ⟨["ex", "extend"], [.mn, .mc, .me],
    "200c+1 df90+1 d0080+5f",
    ""⟩,
  ⟨["fo", "format"], [.cf],
    "",
    "600+5 d7 1b2+1 50 1729+1 f0af f cef52+5f"⟩,
  .listed ["lf"]
    "a",
  ⟨["lo", "lower"], [.ll],
    "aa f 1f5+8 7+1 1e+4 95 d81 c2f+3e d 22+24 2b1 d 10+c d3+f 350+19 792+1 7a1e+1 d2 81+2
      3+1 362+3 9 5c16 2+2 1+29 1+8 d875+3d",
    "10d0+2a 2+2"⟩,
  ⟨["nu", "numeric"], [.nd],
    "600+5 65+1 70 1b2+1 50 10f7 f6e2 f",
    ""⟩,
  ⟨["le", "oletter"], [.lo],
    "2b9+6 6+b 1a 1 85 1e4 99 4c a4+1 10d+1 4 1f 9 3 a0 a7 4d4 7f 209+2a 2+2 5ee+2 e6 6b 263
      1d0+5 12+2a 2+2 4c0+2 2+3 be6 bf 1d5 1 19+8 7+4 2+3 61+1 5d+2 6f16 4e2+5 10e 72 66+9
      27+8 68 246 16 89 6c 15+1 547b 1cf+34 1cc 8 86+4 3ab+1 5cb 20 1690+6e 46d1+3 1fc+2 28+1
      226+c 40+1 1 400c+3 1+6 1+1 3138+6 3ad 45f",
    "aa f"⟩,
  .listed ["sc", "scontinue"]
    "2c+1 c+1 342 1de ae+1 1ea 1009 5 80a+1 fec ce0e+1 1+1 1c+1 1d+1 2+1 2 a a8+1 c+1 48",
  .listed ["st", "sterm"]
    "21 1d 549 93+2 b4 2b+2 f6 3d 1 3+1 125+1 6e4+1 316 4+1 305 c6+1 9d+1 2d 5 13a+1 162+3
      a2+1 a+1 2+1 1d+2 bb+1 41+1 3bc+1 9+2 caf+2 132 d 16+1 1ad 74fc 10e+1 e3 3 17e+1 56+1 5f
      98+1 93+2 90+1 f9 5226 2+1 3f+1 a9 1d 41 af4+1 4fd+4 2c+3 bd+1 75+3 7f+2 81+1 6 10+1
      58+1 1+1 6c 12a+1 75+1 175+1 5+e 69+1 f9+2 205 1 fb+1 57+1 1a4+1 2b4+1 4a+1 4b29+1 85
      41+1 b 229+1 128 4e06 1de8",
  .listed ["se", "sep"]
    "85 1fa2+1",
  .listed ["sp"]
    "9 1+1 13 7f 15df 97f+a 24 2f fa0",
  ⟨["up", "upper"], [.lu],
    "1c5 2 2 26 1d95+7 8+7 8+7 c f 2f 163+f 346+19 1cc60+19 6+19 6+19",
    "1c90+2a 2+2"⟩]

end ClassLint.Unicode
