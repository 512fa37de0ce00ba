import IndexBench.Unicode.Ranges

/-!
# Grapheme breaks

The part that every character plays in grapheme clusters, by its names in lower
case and the ranges of its characters.
-/

namespace IndexBench
namespace Unicode

/-- The classes of characters in grapheme clusters. -/
def graphemeBreakData : List PropertyData := [
  { names := ["cr"]
    ranges := "d" },
  { names := ["cn", "control"]
    ranges := "0-a 1-2 1-12 5f-21 d 56e 11f1 7fc 2-2 18-7 31-10 de8f f0-c 3434-10 8860-4 14cf-8
c2e85-20 60-80 f0-e10" },
  { names := ["ex", "extend"]
    ranges := "300-70 113-7 107-2d 1 1-2 1-2 1 48-b 30-15 10 65-7 2-6 2-2 1-4 23 1e-1b 5b-b 3a-9
9 18-4 1-9 1-3 1-5 2b-3 3b-9 2a-18 1-20 37 1 4-8 4 3-7 a-2 1d 3a 1 2-4 8 9 a-2 1a 2-2 39 4-2 4-2
2-3 3 1e-2 3 b-2 39 4-5 1-2 4 14-2 16-6 1 3a 1-2 1-4 8 7-3 a-2 1e 3b 1 c 9 28 3 37 1-3 5-3 1-4
7-2 b-2 1d 3a 2-2 1 3-3 1-4 7-2 b-2 1c-2 39-2 1 2-4 8 9 a-2 1d 48 4 2-3 1 8 51 2-7 c-8 62 2-9
b-7 49-2 1b 1 1 37-e 1-5 1-2 5-b 1-24 9 66-4 1-6 1-2 2-2 19-2 4-3 10-4 d 2-2 6 f 2bf-3 3b2-4
1c-3 1d-2 1e-2 40-2 1-7 8 2-b 9 2d-3 1 75-2 22 76-3 4-2 9 6-3 db-2 2 3a 1-7 1 1 2-8 6-a 2 30-1f
31-4 30-a 4-3 26-9 c-2 20-4 2-6 38 1-2 3 1-5 38-8 2-2 98-3 1-d 1-7 4 6 3-2 c6-40 20c c3-21 bfe-3
8d 60-20 22a-6 69-2 75d4-4 1-a 20-2 50-2 110 3 4 19-2 5 97-2 1a-12 d 26-8 19-b 1 2c-3 30 2-4 2-2
2 24 43-6 2-2 2-2 c 8 2f 33 1-3 2-2 5-2 1 2a-2 8 ee 2 4 4f30 2e1-10 10-10 16e-2 25d e2 95-5
686-3 1-2 5-4 28-3 4 a5-2 23d-4 41-5 13d-2 4f-4 46-b 31-4 7b 36-f 29 2-2 a-3 31-4 2-2 7 3d-3
24-5 1-8 3e c-2 34-9 1 8-4 2 5f-3 2-4 6 2 9d 3-8 15-2 39-2 1 1 c 9 e-7 3-5 43 2-6 1 2 1-3 4-3 1
e-2 55-8 2-3 1 17 51 2-6 1 2 1-2 1-2 eb 2-4 6-2 1-2 1b-2 55-8 2 1-2 6a 1 2-8 65 1 2-4 1-5 103-9
1-2 f5 a-4 4 90-4 2-2 4 20-a 28-6 2-4 8 9-6 2-3 2e-d 1-2 196-7 1-6 1 52-16 2-7 1-2 1-2 7a-6 3
1-2 1-7 1 48-2 3 1 15b-2 b-2 34-5 5-3 17 14e5 6-f 2cc8-c 3-3 9c0-5 3b-7 418 3f-4 51 b-2 4cab-2
1261-2e 2-17 21e-5 3-6 8-8 2-7 1e-4 94-3 7bb-37 4-32 8 e 16-5 1-f 550-7 1-11 2-7 1-2 1-5 64 a0-7
177 3d-4 1fc-4 fe-2 2e0-7 6d-7 ab0-5 c0c20-60 80-f0" },
  { names := ["l"]
    ranges := "1100-60 9800-1d" },
  { names := ["lf"]
    ranges := "a" },
  { names := ["lv"]
    ranges := "ac00 1b 1b 1b 1b 1b 1b 1b 1b 1b 1b 1b 1b 1b 1b 1b 1b 1b 1b 1b 1b 1b 1b 1b 1b 1b
1b 1b 1b 1b 1b 1b 1b 1b 1b 1b 1b 1b 1b 1b 1b 1b 1b 1b 1b 1b 1b 1b 1b 1b 1b 1b 1b 1b 1b 1b 1b 1b
1b 1b 1b 1b 1b 1b 1b 1b 1b 1b 1b 1b 1b 1b 1b 1b 1b 1b 1b 1b 1b 1b 1b 1b 1b 1b 1b 1b 1b 1b 1b 1b
1b 1b 1b 1b 1b 1b 1b 1b 1b 1b 1b 1b 1b 1b 1b 1b 1b 1b 1b 1b 1b 1b 1b 1b 1b 1b 1b 1b 1b 1b 1b 1b
1b 1b 1b 1b 1b 1b 1b 1b 1b 1b 1b 1b 1b 1b 1b 1b 1b 1b 1b 1b 1b 1b 1b 1b 1b 1b 1b 1b 1b 1b 1b 1b
1b 1b 1b 1b 1b 1b 1b 1b 1b 1b 1b 1b 1b 1b 1b 1b 1b 1b 1b 1b 1b 1b 1b 1b 1b 1b 1b 1b 1b 1b 1b 1b
1b 1b 1b 1b 1b 1b 1b 1b 1b 1b 1b 1b 1b 1b 1b 1b 1b 1b 1b 1b 1b 1b 1b 1b 1b 1b 1b 1b 1b 1b 1b 1b
1b 1b 1b 1b 1b 1b 1b 1b 1b 1b 1b 1b 1b 1b 1b 1b 1b 1b 1b 1b 1b 1b 1b 1b 1b 1b 1b 1b 1b 1b 1b 1b
1b 1b 1b 1b 1b 1b 1b 1b 1b 1b 1b 1b 1b 1b 1b 1b 1b 1b 1b 1b 1b 1b 1b 1b 1b 1b 1b 1b 1b 1b 1b 1b
1b 1b 1b 1b 1b 1b 1b 1b 1b 1b 1b 1b 1b 1b 1b 1b 1b 1b 1b 1b 1b 1b 1b 1b 1b 1b 1b 1b 1b 1b 1b 1b
1b 1b 1b 1b 1b 1b 1b 1b 1b 1b 1b 1b 1b 1b 1b 1b 1b 1b 1b 1b 1b 1b 1b 1b 1b 1b 1b 1b 1b 1b 1b 1b
1b 1b 1b 1b 1b 1b 1b 1b 1b 1b 1b 1b 1b 1b 1b 1b 1b 1b 1b 1b 1b 1b 1b 1b 1b 1b 1b 1b 1b 1b 1b 1b
1b 1b 1b 1b 1b 1b 1b 1b 1b 1b 1b 1b 1b 1b 1b 1b 1b 1b 1b 1b 1b" },
  { names := ["lvt"]
    ranges := "ac01-1b 1-1b 1-1b 1-1b 1-1b 1-1b 1-1b 1-1b 1-1b 1-1b 1-1b 1-1b 1-1b 1-1b 1-1b
1-1b 1-1b 1-1b 1-1b 1-1b 1-1b 1-1b 1-1b 1-1b 1-1b 1-1b 1-1b 1-1b 1-1b 1-1b 1-1b 1-1b 1-1b 1-1b
1-1b 1-1b 1-1b 1-1b 1-1b 1-1b 1-1b 1-1b 1-1b 1-1b 1-1b 1-1b 1-1b 1-1b 1-1b 1-1b 1-1b 1-1b 1-1b
1-1b 1-1b 1-1b 1-1b 1-1b 1-1b 1-1b 1-1b 1-1b 1-1b 1-1b 1-1b 1-1b 1-1b 1-1b 1-1b 1-1b 1-1b 1-1b
1-1b 1-1b 1-1b 1-1b 1-1b 1-1b 1-1b 1-1b 1-1b 1-1b 1-1b 1-1b 1-1b 1-1b 1-1b 1-1b 1-1b 1-1b 1-1b
1-1b 1-1b 1-1b 1-1b 1-1b 1-1b 1-1b 1-1b 1-1b 1-1b 1-1b 1-1b 1-1b 1-1b 1-1b 1-1b 1-1b 1-1b 1-1b
1-1b 1-1b 1-1b 1-1b 1-1b 1-1b 1-1b 1-1b 1-1b 1-1b 1-1b 1-1b 1-1b 1-1b 1-1b 1-1b 1-1b 1-1b 1-1b
1-1b 1-1b 1-1b 1-1b 1-1b 1-1b 1-1b 1-1b 1-1b 1-1b 1-1b 1-1b 1-1b 1-1b 1-1b 1-1b 1-1b 1-1b 1-1b
1-1b 1-1b 1-1b 1-1b 1-1b 1-1b 1-1b 1-1b 1-1b 1-1b 1-1b 1-1b 1-1b 1-1b 1-1b 1-1b 1-1b 1-1b 1-1b
1-1b 1-1b 1-1b 1-1b 1-1b 1-1b 1-1b 1-1b 1-1b 1-1b 1-1b 1-1b 1-1b 1-1b 1-1b 1-1b 1-1b 1-1b 1-1b
1-1b 1-1b 1-1b 1-1b 1-1b 1-1b 1-1b 1-1b 1-1b 1-1b 1-1b 1-1b 1-1b 1-1b 1-1b 1-1b 1-1b 1-1b 1-1b
1-1b 1-1b 1-1b 1-1b 1-1b 1-1b 1-1b 1-1b 1-1b 1-1b 1-1b 1-1b 1-1b 1-1b 1-1b 1-1b 1-1b 1-1b 1-1b
1-1b 1-1b 1-1b 1-1b 1-1b 1-1b 1-1b 1-1b 1-1b 1-1b 1-1b 1-1b 1-1b 1-1b 1-1b 1-1b 1-1b 1-1b 1-1b
1-1b 1-1b 1-1b 1-1b 1-1b 1-1b 1-1b 1-1b 1-1b 1-1b 1-1b 1-1b 1-1b 1-1b 1-1b 1-1b 1-1b 1-1b 1-1b
1-1b 1-1b 1-1b 1-1b 1-1b 1-1b 1-1b 1-1b 1-1b 1-1b 1-1b 1-1b 1-1b 1-1b 1-1b 1-1b 1-1b 1-1b 1-1b
1-1b 1-1b 1-1b 1-1b 1-1b 1-1b 1-1b 1-1b 1-1b 1-1b 1-1b 1-1b 1-1b 1-1b 1-1b 1-1b 1-1b 1-1b 1-1b
1-1b 1-1b 1-1b 1-1b 1-1b 1-1b 1-1b 1-1b 1-1b 1-1b 1-1b 1-1b 1-1b 1-1b 1-1b 1-1b 1-1b 1-1b 1-1b
1-1b 1-1b 1-1b 1-1b 1-1b 1-1b 1-1b 1-1b 1-1b 1-1b 1-1b 1-1b 1-1b 1-1b 1-1b 1-1b 1-1b 1-1b 1-1b
1-1b 1-1b 1-1b 1-1b 1-1b 1-1b 1-1b 1-1b 1-1b 1-1b 1-1b 1-1b 1-1b 1-1b 1-1b 1-1b 1-1b 1-1b 1-1b
1-1b 1-1b 1-1b 1-1b 1-1b 1-1b 1-1b 1-1b 1-1b 1-1b 1-1b 1-1b 1-1b 1-1b 1-1b 1-1b 1-1b 1-1b 1-1b
1-1b 1-1b 1-1b 1-1b 1-1b 1-1b 1-1b 1-1b 1-1b 1-1b 1-1b 1-1b 1-1b 1-1b 1-1b 1-1b 1-1b 1-1b 1-1b
1-1b 1-1b 1-1b 1-1b" },
  { names := ["pp", "prepend"]
    ranges := "600-6 d7 31 180-2 50 46b 1036e f f4-2 20d 56d 1 f8 49-6 2bc 1bb" },
  { names := ["ri", "regionalindicator"]
    ranges := "1f1e6-1a" },
  { names := ["sm", "spacingmark"]
    ranges := "903 37 2-3 8-4 1-2 32-2 3b-2 6-2 2-2 36 3a-3 42 3a-3 8 1-2 35-2 3c 6-2 2-2 72 1-2
3-3 1-3 34-3 3d-4 3d-2 3a 2 1-2 2e e-2 3b-2 5-3 1-3 35-2 4c-2 6-7 13-2 3f 7f 8a-2 3f b1 9-2 19-2
2c 731 7-8 1-2 15a-4 2-3 4-2 1-6 e0-2 3a 1 15-6 91 39-4 40 1e 4-2 3f 2-3 1 35-8 8-2 ab 15 8b2b-2
2 58-2 32-10 8e 30 30-2 4-2 2-2 6f-2 2-2 18 9d 2-2 5 ed-2 1-2 1-2 1 6413 1 7f 2d-3 4-2 73 18-2
3b 30-3 9 e 5d-3 3-2 ac-3 1f-2 3b 1-4 2-2 2-2 15-2 55-2 f 1-2 67-3 8-2 3 6b-2 6 1-2 1 2 ee-2 6-4
2 71-3 8-2 1 6d 1-2 6e 7 105-3 9 f8-5 1-2 7 1 8e-3 8-4 4 54 1d-2 3e 197 e 6a 7 2 d5-5 4-2 1
15e-2 c 30-2 8-2 41ea-3 e24-37" },
  { names := ["t"]
    ranges := "11a8-58 c5cb-31" },
  { names := ["v"]
    ranges := "1160-48 c608-17 959c 3-4" },
  { names := ["zwj"]
    ranges := "200d" }]

/-- The classes of characters in grapheme clusters, decoded. -/
def graphemeBreaks : Array Property :=
  (graphemeBreakData.map PropertyData.property).toArray

end Unicode
end IndexBench
