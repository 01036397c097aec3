/-
Reading JSON texts.

`read` gives the value of a text. Values nest at most 127 deep; equal names in an object leave the last value. `skip`
passes over a value that is not kept: it may nest to any depth, and its numbers and characters only have to look right.
Faults are found in the order of the text.
-/
import LineTerminal.Json.Token

namespace LineTerminal.Json

/-- how deep the values of a text may nest, plus one -/
def depthLimit : Nat := 128

/-- enough steps for a text: each character is looked at by at most two of them -/
def steps (cs : List Char) : Nat := 2 * cs.length + 2

/-- one level further down, unless that is too deep -/
def deeper (depth : Nat) : Except Fault Nat := if depth ≤ 1 then .error .tooDeep else .ok (depth - 1)

def scanColon (cs : List Char) : Except Fault (List Char) :=
  match skipBlanks cs with
  | [] => .error .endInObject
  | ':' :: rest => .ok rest
  | _ => .error .expectedColon

/-- where the next item of a list begins, or the rest after its end -/
def nextItem (first : Bool) (cs : List Char) : Except Fault (Bool × List Char) :=
  match skipBlanks cs with
  | [] => .error .endInList
  | c :: rest =>
    if c = ']' then .ok (false, rest)
    else if first then .ok (true, c :: rest)
    else if c = ',' then
      match skipBlanks rest with
      | [] => .error .endInValue
      | ']' :: _ => .error .trailingComma
      | r => .ok (true, r)
    else .error .expectedListCommaOrEnd

/-- where the next name of an object begins, after its quote, or the rest after the end of the object -/
def nextName (first : Bool) (cs : List Char) : Except Fault (Bool × List Char) :=
  match skipBlanks cs with
  | [] => .error .endInObject
  | c :: rest =>
    if c = '\x7d' then .ok (false, rest)
    else if first then (if c = '"' then .ok (true, rest) else .error .keyMustBeText)
    else if c = ',' then
      match skipBlanks rest with
      | [] => .error .endInValue
      | '"' :: r => .ok (true, r)
      | '\x7d' :: _ => .error .trailingComma
      | _ => .error .keyMustBeText
    else .error .expectedObjectCommaOrEnd

mutual

def readValue (depth : Nat) : Nat → List Char → Scan Json
  | 0, _ => .error .endInValue
  | fuel + 1, cs =>
    match skipBlanks cs with
    | [] => .error .endInValue
    | c :: rest =>
      if c = 'n' then (scanWord ['u', 'l', 'l'] rest).map (fun r => (.null, r))
      else if c = 't' then (scanWord ['r', 'u', 'e'] rest).map (fun r => (.bool true, r))
      else if c = 'f' then (scanWord ['a', 'l', 's', 'e'] rest).map (fun r => (.bool false, r))
      else if c = '-' then (readNumber true rest).map (fun (n, r) => (.number n, r))
      else if c.isDigit then (readNumber false (c :: rest)).map (fun (n, r) => (.number n, r))
      else if c = '"' then (readText rest).map (fun (s, r) => (.text s, r))
      else if c = '[' then
        match deeper depth with
        | .error e => .error e
        | .ok depth => (readItems depth true [] fuel rest).map (fun (vs, r) => (.array vs, r))
      else if c = '\x7b' then
        match deeper depth with
        | .error e => .error e
        | .ok depth => (readMembers depth true [] fuel rest).map (fun (ms, r) => (.object ms, r))
      else .error .expectedValue

/-- the items of a list; `acc` holds those read, the last one first -/
def readItems (depth : Nat) (first : Bool) (acc : List Json) : Nat → List Char → Scan (List Json)
  | 0, _ => .error .endInList
  | fuel + 1, cs =>
    match nextItem first cs with
    | .error e => .error e
    | .ok (false, rest) => .ok (acc.reverse, rest)
    | .ok (true, rest) =>
      match readValue depth fuel rest with
      | .error e => .error e
      | .ok (v, rest) => readItems depth false (v :: acc) fuel rest

/-- the members of an object; `acc` holds those read, in their places -/
def readMembers (depth : Nat) (first : Bool) (acc : List (String × Json)) : Nat → List Char → Scan (List (String × Json))
  | 0, _ => .error .endInObject
  | fuel + 1, cs =>
    match nextName first cs with
    | .error e => .error e
    | .ok (false, rest) => .ok (acc, rest)
    | .ok (true, rest) =>
      match readText rest with
      | .error e => .error e
      | .ok (name, rest) =>
        match scanColon rest with
        | .error e => .error e
        | .ok rest =>
          match readValue depth fuel rest with
          | .error e => .error e
          | .ok (v, rest) => readMembers depth false (insert name v acc) fuel rest

end

mutual

/-- the rest after a value that is not kept -/
def skipValue : Nat → List Char → Except Fault (List Char)
  | 0, _ => .error .endInValue
  | fuel + 1, cs =>
    match skipBlanks cs with
    | [] => .error .endInValue
    | c :: rest =>
      if c = 'n' then scanWord ['u', 'l', 'l'] rest
      else if c = 't' then scanWord ['r', 'u', 'e'] rest
      else if c = 'f' then scanWord ['a', 'l', 's', 'e'] rest
      else if c = '-' then (scanNumber .invalidNumber rest).map (·.2)
      else if c.isDigit then (scanNumber .invalidNumber (c :: rest)).map (·.2)
      else if c = '"' then skipText rest
      else if c = '[' then
        match skipBlanks rest with
        | ']' :: r => .ok r
        | [] => .error .endInList
        | r => skipItems fuel r
      else if c = '\x7b' then
        match skipBlanks rest with
        | '\x7d' :: r => .ok r
        | [] => .error .endInObject
        | r => skipMembers fuel r
      else .error .expectedValue

/-- the rest after a list, from the beginning of an item -/
def skipItems : Nat → List Char → Except Fault (List Char)
  | 0, _ => .error .endInList
  | fuel + 1, cs =>
    match skipValue fuel cs with
    | .error e => .error e
    | .ok rest =>
      match skipBlanks rest with
      | [] => .error .endInList
      | ',' :: r => skipItems fuel r
      | ']' :: r => .ok r
      | _ => .error .expectedListCommaOrEnd

/-- the rest after an object, from the beginning of a name -/
def skipMembers : Nat → List Char → Except Fault (List Char)
  | 0, _ => .error .endInObject
  | fuel + 1, cs =>
    match skipBlanks cs with
    | [] => .error .endInObject
    | '"' :: rest =>
      match skipText rest with
      | .error e => .error e
      | .ok rest =>
        match scanColon rest with
        | .error e => .error e
        | .ok rest =>
          match skipValue fuel rest with
          | .error e => .error e
          | .ok rest =>
            match skipBlanks rest with
            | [] => .error .endInObject
            | ',' :: r => skipMembers fuel r
            | '\x7d' :: r => .ok r
            | _ => .error .expectedObjectCommaOrEnd
    | _ => .error .keyMustBeText

end

def skip (cs : List Char) : Except Fault (List Char) := skipValue (steps cs) cs

/-- nothing but blanks may be left -/
def atEnd (cs : List Char) : Except Fault Unit :=
  if (skipBlanks cs).isEmpty then .ok () else .error .trailingCharacters

/-- the value of a text whose values nest less than `depth` deep -/
def readWithin (depth : Nat) (cs : List Char) : Except Fault Json := do
  let (v, rest) ← readValue depth (steps cs) cs
  atEnd rest
  return v

def read (s : String) : Except Fault Json := readWithin depthLimit s.toList

end LineTerminal.Json
