/-
The filter of the log.

A filter is a list of directives between commas: a level, a target with all levels, or a target with a level. A line
passes when the most special directive for its target allows its level; a longer target is more special, and of two
directives for the same target the later one counts. A line that no directive is for does not pass.

A directive may also name a span or a field in brackets. There are no spans, so one with a span is for no line; one with
a field, and no value for it, is for the lines that have the field.
-/
import LineTerminal.Log.Line
import LineTerminal.Text
import LineTerminal.Text.Quoted

namespace LineTerminal.Log

/-- the least urgent level that passes; none when nothing does -/
abbrev Limit := Option Level

def Limit.allows (limit : Limit) (level : Level) : Bool :=
  match limit with
  | none => false
  | some l => level.rank ≤ l.rank

/-- the limits by their words in capitals -/
def Limit.words : List (String × Limit) := ("OFF", none) :: Level.all.map (fun l => (l.name, some l))

/-- the limits by their numbers, from zero on -/
def Limit.numbered : List Limit := none :: Level.all.map some

/-- a number of a limit, which may have a plus sign -/
def Limit.ofDigits (cs : List Char) : Option Limit :=
  let ds := match cs with
    | '+' :: rest => rest
    | cs => cs
  if ds.isEmpty || !ds.all Char.isDigit then none
  else Limit.numbered[ds.foldl (fun n d => 10 * n + (d.toNat - 48)) 0]?

/-- the limit that a text names, by number or by word in small or capital letters -/
def Limit.ofText? (s : String) : Option Limit :=
  match Limit.ofDigits s.toList with
  | some limit => some limit
  | none => Limit.words.lookup s.toUpper

structure Directive where
  /-- what the path of a target begins with; none for every target -/
  target : Option String
  /-- is it only for lines in some span -/
  inSpan : Bool
  /-- the field that a line must have, and whether its value matters too -/
  field : Option (String × Bool)
  limit : Limit
  deriving DecidableEq, Repr

namespace Directive

/-- the signs beyond ASCII that are no letters and no digits -/
def isForeignSign (c : Char) : Bool :=
  let n := c.toNat
  (0x80 ≤ n && n < 0xc0 && !([0xaa, 0xb2, 0xb3, 0xb5, 0xb9, 0xba, 0xbc, 0xbd, 0xbe].contains n)) || n == 0xd7 || n == 0xf7
    || (0x2010 ≤ n && n < 0x2070) || (0x20a0 ≤ n && n < 0x2100) || (0x2190 ≤ n && n < 0x2460)
    || (0x2500 ≤ n && n < 0x2776) || (0x2794 ≤ n && n < 0x2c00) || (0x3001 ≤ n && n < 0x3005)
    || (0x3008 ≤ n && n < 0x3021) || (0xff01 ≤ n && n < 0xff10) || (0x1f000 ≤ n && n < 0x1fb00)

/-- the characters that a directive without brackets begins with -/
def isStart (c : Char) : Bool :=
  c.isAlphanum || c == '-' || c == ':' || c == '_'
    || (0x80 ≤ c.toNat && !Text.isBlank c && !Text.isHidden c && !isForeignSign c)

/-- the limit after an equals sign; nothing there stands for every level -/
def limitOf (cs : List Char) : Option Limit :=
  if cs.isEmpty then some (some .trace) else Limit.ofText? (String.ofList cs)

/-- what comes after the brackets -/
def afterBrackets (target : Option String) (inSpan : Bool) (field : Option (String × Bool)) :
    List Char → Option Directive
  | [] => some ⟨target, inSpan, field, some .trace⟩
  | '=' :: rest => (limitOf rest).map (fun limit => ⟨target, inSpan, field, limit⟩)
  | _ => none

/-- what comes in the brackets: the name of a span, a field in braces, or both -/
def inBrackets (target : Option String) (cs : List Char) : Option Directive :=
  let span := cs.takeWhile (fun c => c != ']' && c != '\x7b')
  match cs.dropWhile (fun c => c != ']' && c != '\x7b') with
  | ']' :: rest => afterBrackets target true none rest
  | '\x7b' :: rest =>
    let field := rest.takeWhile (· != '\x7d')
    match rest.dropWhile (· != '\x7d') with
    | '\x7d' :: ']' :: rest =>
      if field.isEmpty then none
      else
        let name := String.ofList (field.takeWhile (· != '='))
        afterBrackets target (!span.isEmpty) (some (name, field.contains '=')) rest
    | _ => none
  | _ => none

/-- blanks around a directive do not hide what it is, but they stay a part of the words in it -/
def isPadded (cs : List Char) : Bool :=
  (cs.head?.map Text.isBlank).getD false || (cs.getLast?.map Text.isBlank).getD false

def ofText? (s : String) : Option Directive :=
  let given := s.toList
  let cs := ((given.dropWhile Text.isBlank).reverse.dropWhile Text.isBlank).reverse
  match cs with
  | [] => none
  | '[' :: rest => inBrackets none rest
  | c :: _ =>
    if !isStart c then none
    else
      let word := cs.takeWhile (fun c => c != '=' && c != '[')
      match cs.dropWhile (fun c => c != '=' && c != '[') with
      | '=' :: rest =>
        if isPadded given then none
        else (limitOf rest).map (fun limit => ⟨some (String.ofList word), false, none, limit⟩)
      | '[' :: rest => inBrackets (some (String.ofList word)) rest
      | _ =>
        match Limit.ofText? s with
        | some limit => some ⟨none, false, none, limit⟩
        | none => some ⟨some s, false, none, some .trace⟩

def isFor (d : Directive) (l : Line) : Bool :=
  !d.inSpan
    && (match d.target with
      | none => true
      | some t => t.toList.isPrefixOf l.target.path.toList)
    && (match d.field with
      | none => true
      | some (name, valued) => !valued && (name == "message" || (l.field? name).isSome))

theorem isFor_congr (d : Directive) {l l' : Line} (target : l.target = l'.target)
    (names : l.fields.map (·.1) = l'.fields.map (·.1)) : d.isFor l = d.isFor l' := by
  simp only [isFor, Line.isSome_field?, target, names]

/-- how special a directive is: by the length of its target, then by its field -/
def special (d : Directive) : Nat × Nat :=
  ((d.target.map (fun t => t.utf8ByteSize + 1)).getD 0, if d.field.isSome then 1 else 0)

/-- is a directive at least as special as another one -/
def outranks (d e : Directive) : Bool :=
  e.special.1 < d.special.1 || (e.special.1 == d.special.1 && e.special.2 ≤ d.special.2)

end Directive

structure Filter where
  /-- in the order in which they are given -/
  directives : List Directive
  deriving DecidableEq, Repr

namespace Filter

def nothing : Filter := ⟨[]⟩

def ofLimit (limit : Limit) : Filter := ⟨[⟨none, false, none, limit⟩]⟩

/-- the most special directive for a line -/
def directiveFor? (f : Filter) (l : Line) : Option Directive :=
  (f.directives.filter (·.isFor l)).foldl (fun best d =>
    match best with
    | none => some d
    | some b => if d.outranks b then some d else some b) none

def passes (f : Filter) (l : Line) : Bool :=
  match f.directiveFor? l with
  | none => false
  | some d => d.limit.allows l.level

/-- a filter looks at the level of a line, at its target and at the names of its fields -/
theorem passes_congr (f : Filter) {l l' : Line} (level : l.level = l'.level) (target : l.target = l'.target)
    (names : l.fields.map (·.1) = l'.fields.map (·.1)) : f.passes l = f.passes l' := by
  have best : f.directiveFor? l = f.directiveFor? l' := by
    simp only [directiveFor?, Directive.isFor_congr _ target names]
  simp only [passes, best, level]

/-- the filter in a text in which every directive must be one; nothing passes an empty one -/
def ofText? (s : String) : Option Filter :=
  if s.isEmpty then some nothing else ((s.splitOn ",").mapM Directive.ofText?).map Filter.mk

/-- the filter in a text, from which whatever is no directive is left out; only errors pass when nothing is left -/
def ofTextLeniently (s : String) : Filter :=
  match (s.splitOn ",").filterMap Directive.ofText? with
  | [] => ofLimit (some .error)
  | ds => ⟨ds⟩

/-- the filter of the environment if there is a good one, else the one that is configured -/
def choose (environment : Option String) (configured : String) : Filter :=
  (environment.bind ofText?).getD (ofTextLeniently configured)

end Filter

end LineTerminal.Log
