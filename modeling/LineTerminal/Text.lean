/-
Characters and texts: blanks, capitals and small letters, and the sequences that control a terminal.

A comparison without regard to case is with words of ASCII letters only, so it is enough to know the characters whose case
folding is made of such letters: the capitals, the signs for kelvin and the long s, the sharp s and the ligatures.
-/
namespace LineTerminal.Text

/-! ## Blanks -/

/-- the white space of all scripts -/
def isBlank (c : Char) : Bool :=
  let n := c.toNat
  (9 ≤ n && n ≤ 13) || n == 0x20 || n == 0x85 || n == 0xa0 || n == 0x1680 || (0x2000 ≤ n && n ≤ 0x200a)
    || n == 0x2028 || n == 0x2029 || n == 0x202f || n == 0x205f || n == 0x3000

def isBlankText (s : String) : Bool := s.toList.all isBlank

/-! ## Without regard to case -/

/-- the case folding of a character, as far as it is made of ASCII letters -/
def fold (c : Char) : List Char :=
  match c.toNat with
  | 0x212a => ['k']
  | 0x17f => ['s']
  | 0xdf | 0x1e9e => ['s', 's']
  | 0xfb00 => ['f', 'f']
  | 0xfb01 => ['f', 'i']
  | 0xfb02 => ['f', 'l']
  | 0xfb03 => ['f', 'f', 'i']
  | 0xfb04 => ['f', 'f', 'l']
  | 0xfb05 | 0xfb06 => ['s', 't']
  | _ => [c.toLower]

/-- are two texts equal when case does not count -/
def equalFolded (a b : String) : Bool := a.toList.flatMap fold == b.toList.flatMap fold

/-! ## Without control sequences -/

/-- does a character control a terminal; white space does not count -/
def isControl (c : Char) : Bool :=
  let n := c.toNat
  n == 0x7f || (n < 0x20 && !([9, 10, 12, 13].contains n))

/-- the rest of a text after a control sequence, whose opening bracket has been read -/
def afterSequence (cs : List Char) : List Char :=
  (cs.dropWhile (fun c => 0x20 ≤ c.toNat && c.toNat < 0x40)).drop 1

/-- a text without control sequences; the first argument bounds its length -/
def plainChars : Nat → List Char → List Char
  | 0, _ => []
  | _, [] => []
  | fuel + 1, c :: rest =>
    if c = '\x1b' then
      match rest with
      | '[' :: rest => plainChars fuel (afterSequence rest)
      | _ :: rest => plainChars fuel rest
      | [] => []
    else if isControl c then plainChars fuel rest
    else c :: plainChars fuel rest

def plain (s : String) : String := String.ofList (plainChars s.length s.toList)

end LineTerminal.Text
