/-
Blank texts are no mappings.

A text of blanks of all scripts need not be blank for YAML, which knows only a few of them: a non-breaking space is a
plain scalar. But no blank is a sign of a collection, a tag, an anchor or a directive. So the tokens of such a text are
scalars and ends (`tokens_flat`), and its document is at most a scalar (`members?_of_blank`).
-/
import LineTerminal.Proofs.Yaml.Meaning
import LineTerminal.Text

namespace LineTerminal.Yaml

/-! ## What is left of a text is an end of it -/

namespace Cursor

theorem skip_suffix (c : Cursor) : c.skip.rest <:+ c.rest := by
  unfold skip
  split
  · exact List.suffix_rfl
  · rename_i x rest at_rest
    rw [at_rest]
    exact List.suffix_cons x rest

theorem skipBy_suffix (c : Cursor) (n : Nat) : (c.skipBy n).rest <:+ c.rest := List.drop_suffix n c.rest

theorem skipWhile_suffix (c : Cursor) (p : Char → Bool) : (c.skipWhile p).rest <:+ c.rest := c.skipBy_suffix _

theorem readBreak_suffix (c : Cursor) : c.readBreak.2.rest <:+ c.rest := by
  unfold readBreak
  split
  · rename_i rest at_rest
    rw [at_rest]
    exact (List.suffix_cons '\n' rest).trans (List.suffix_cons '\r' _)
  · rename_i x rest _ at_rest
    rw [at_rest]
    split
    · exact List.suffix_cons x rest
    · split
      · exact List.suffix_cons x rest
      · exact at_rest ▸ List.suffix_rfl
  · exact List.suffix_rfl

theorem skipComment_suffix (c : Cursor) : c.skipComment.rest <:+ c.rest := by
  unfold skipComment
  split
  · exact c.skipWhile_suffix _
  · exact List.suffix_rfl

end Cursor

namespace ScalarText

theorem readGap_suffix {indent fuel : Nat} {g g' : Gap} {c c' : Cursor} (read : readGap indent fuel g c = some (g', c')) :
    c'.rest <:+ c.rest := by
  induction fuel generalizing g c with
  | zero =>
    cases read
    exact List.suffix_rfl
  | succ fuel ih =>
    unfold readGap at read
    split at read
    · cases read
      exact List.suffix_rfl
    · split at read
      · split at read
        · cases read
        · exact (ih read).trans c.skip_suffix
      · split at read
        · dsimp only at read
          split at read <;> exact (ih read).trans c.readBreak_suffix
        · cases read
          exact List.suffix_rfl

theorem plainWords_suffix {flow : Bool} {indent fuel : Nat} {gap : Gap} {acc chars : List Char} {broken : Bool}
    {c c' : Cursor} (read : plainWords flow indent fuel gap acc c = some (chars, broken, c')) : c'.rest <:+ c.rest := by
  induction fuel generalizing gap acc c with
  | zero =>
    cases read
    exact List.suffix_rfl
  | succ fuel ih =>
    unfold plainWords at read
    split at read
    · cases read
      exact List.suffix_rfl
    · cases length : wordLength flow c.rest with
      | none => simp [length, bind] at read
      | some n =>
        simp only [length, bind, Option.bind_some] at read
        generalize at_word :
          (if n = 0 then (acc, gap, c) else ((gap.chars ++ c.rest.take n).reverseAux acc, Gap.none, c.skipBy n)) = word
          at read
        obtain ⟨acc', gap', after⟩ := word
        have passed : after.rest <:+ c.rest := by
          split at at_word
          · cases at_word
            exact List.suffix_rfl
          · cases at_word
            exact c.skipBy_suffix n
        refine List.IsSuffix.trans ?_ passed
        dsimp only at read
        split at read
        · cases read
          exact List.suffix_rfl
        · split at read
          · cases read
            exact List.suffix_rfl
          · cases found : readGap indent (fuel + 1) gap' after with
            | none => simp [found] at read
            | some gapped =>
              obtain ⟨gap'', beyond⟩ := gapped
              simp only [found, Option.bind_some] at read
              refine List.IsSuffix.trans ?_ (readGap_suffix found)
              split at read
              · cases read
                exact List.suffix_rfl
              · exact ih read

theorem plain_suffix {flow : Bool} {indent : Nat} {t : String} {broken : Bool} {c c' : Cursor}
    (read : plain flow indent c = some (t, broken, c')) : c'.rest <:+ c.rest := by
  unfold plain at read
  cases words : plainWords flow indent (c.rest.length + 1) .none [] c with
  | none => simp [words, bind] at read
  | some found =>
    obtain ⟨chars, broken', after⟩ := found
    simp [words, bind] at read
    obtain ⟨-, -, rfl⟩ := read
    exact plainWords_suffix words

end ScalarText

/-! ## The tokens of a blank text -/

/-- a scalar or an end, not a part of a collection -/
inductive Token.Flat : Token → Prop
  | scalar (style : Style) (text : String) : Flat (.scalar style text)
  | blockEnd : Flat .blockEnd
  | streamEnd : Flat .streamEnd

theorem flat_push {ts : Array Token} {t : Token} (flat : ∀ u ∈ ts.toList, u.Flat) (last : t.Flat) :
    ∀ u ∈ (ts.push t).toList, u.Flat := by
  intro u among
  rw [Array.toList_push, List.mem_append, List.mem_singleton] at among
  rcases among with among | rfl
  · exact flat u among
  · exact last

namespace Lexer

theorem outerBlocks_flat (column : Int) (indents : List Int) (indent : Int) {ts : Array Token}
    (flat : ∀ t ∈ ts.toList, t.Flat) : ∀ t ∈ (outerBlocks column indents indent ts).1.toList, t.Flat := by
  induction indents generalizing indent ts with
  | nil =>
    unfold outerBlocks
    split
    · exact flat_push flat .blockEnd
    · exact flat
  | cons outer rest ih =>
    unfold outerBlocks
    split
    · exact ih outer (flat_push flat .blockEnd)
    · exact flat

/-- what is left is blank, and what was read is flat -/
structure Plain (x : Lexer) : Prop where
  blank : ∀ c ∈ x.cursor.rest, Text.isBlank c = true
  flat : ∀ t ∈ x.tokens.toList, t.Flat

namespace Plain

variable {x y : Lexer}

theorem forgetKey (plain : x.Plain) (forgot : x.forgetKey = some y) : y.Plain := by
  unfold Lexer.forgetKey at forgot
  split at forgot
  · split at forgot
    · cases forgot
    · cases forgot
      exact ⟨plain.blank, plain.flat⟩
  · cases forgot
    exact plain

theorem markKey (plain : x.Plain) (marked : x.markKey = some y) : y.Plain := by
  unfold Lexer.markKey at marked
  split at marked
  · cases marked
    exact plain
  · cases forgot : x.forgetKey with
    | none => simp [forgot, bind] at marked
    | some z =>
      simp only [forgot, bind, Option.bind_some] at marked
      cases marked
      exact ⟨(plain.forgetKey forgot).blank, (plain.forgetKey forgot).flat⟩

theorem dropStale (plain : x.Plain) (dropped : x.dropStale = some y) : y.Plain := by
  unfold Lexer.dropStale at dropped
  simp only [bind, Option.bind_eq_some_iff] at dropped
  obtain ⟨keys, -, same⟩ := dropped
  cases same
  exact ⟨plain.blank, plain.flat⟩

theorem push {t : Token} (plain : x.Plain) (flat : t.Flat) : (x.push t).Plain :=
  ⟨plain.blank, flat_push plain.flat flat⟩

theorem closeBlocks (plain : x.Plain) (column : Int) : (x.closeBlocks column).Plain := by
  unfold Lexer.closeBlocks
  split
  · exact plain
  · exact ⟨plain.blank, outerBlocks_flat column x.indents x.indent plain.flat⟩

theorem toNextToken (plain : x.Plain) (fuel : Nat) : (x.toNextToken fuel).Plain := by
  induction fuel generalizing x with
  | zero => exact plain
  | succ fuel ih =>
    unfold Lexer.toNextToken
    extract_lets c c₁ c₂ c₃
    have passed : c₃.rest <:+ c.rest := by
      refine (Cursor.skipComment_suffix _).trans ((Cursor.skipWhile_suffix _ _).trans ?_)
      unfold c₁
      split
      · exact c.skip_suffix
      · exact List.suffix_rfl
    split
    · exact ih ⟨fun a among => plain.blank a (((Cursor.readBreak_suffix c₃).trans passed).subset among), plain.flat⟩
    · exact ⟨fun a among => plain.blank a (passed.subset among), plain.flat⟩

theorem streamEnd (plain : x.Plain) (ended : x.streamEnd = some y) : y.Plain := by
  unfold Lexer.streamEnd at ended
  simp only [bind, Option.bind_eq_some_iff] at ended
  obtain ⟨z, forgot, same⟩ := ended
  cases same
  have pushed := ((plain.closeBlocks (-1)).forgetKey forgot).push .streamEnd
  exact ⟨pushed.blank, pushed.flat⟩

theorem plainScalar (plain : x.Plain) (read : x.plainScalar = some y) : y.Plain := by
  unfold Lexer.plainScalar at read
  simp only [bind, Option.bind_eq_some_iff] at read
  obtain ⟨z, marked, ⟨t, broken, c⟩, scalar, same⟩ := read
  cases same
  have pushed := (plain.markKey marked).push (.scalar .plain t)
  exact ⟨fun a among => pushed.blank a ((ScalarText.plain_suffix scalar).subset among), pushed.flat⟩

/-- the next token of a blank text is flat: no blank begins another one -/
theorem readNext (plain : x.Plain) (read : x.readNext = some y) : y.Plain := by
  unfold Lexer.readNext at read
  simp only [bind, Option.bind_eq_some_iff] at read
  obtain ⟨z, dropped, read⟩ := read
  have plain := ((plain.toNextToken _).dropStale dropped).closeBlocks z.cursor.column
  generalize z.closeBlocks z.cursor.column = z at plain read
  split at read
  · exact plain.streamEnd read
  · rename_i c next
    have blank : Text.isBlank c = true := plain.blank c (List.mem_of_mem_head? next)
    have noSign : ∀ sign, Text.isBlank sign = false → (c == sign) = false := by
      intro sign ink
      refine beq_eq_false_iff_ne.2 (fun same => ?_)
      rw [same, ink] at blank
      cases blank
    have noMarker : ∀ sign, Text.isBlank sign = false → z.cursor.atMarker sign = false := by
      intro sign ink
      obtain ⟨rest, at_rest⟩ : ∃ rest, z.cursor.rest = c :: rest := by
        cases at_rest : z.cursor.rest with
        | nil => simp [Cursor.next?, at_rest] at next
        | cons d rest => exact ⟨rest, by simpa [Cursor.next?, at_rest] using next⟩
      simp [Cursor.atMarker, at_rest, noSign sign ink]
    simp only [noMarker '-' rfl, noMarker '.' rfl, noSign '%' rfl, noSign '[' rfl, noSign '\x7b' rfl, noSign ']' rfl,
      noSign '\x7d' rfl, noSign ',' rfl, noSign '-' rfl, noSign '?' rfl, noSign ':' rfl, noSign '*' rfl, noSign '&' rfl,
      noSign '!' rfl, noSign '|' rfl, noSign '>' rfl, noSign '\'' rfl, noSign '"' rfl, Bool.and_false, Bool.false_and,
      Bool.false_eq_true, if_false] at read
    split at read
    · exact plain.plainScalar read
    · cases read

end Plain

theorem run_flat (fuel : Nat) {x : Lexer} (plain : x.Plain) : ∀ t ∈ run fuel x, t.Flat := by
  induction fuel generalizing x with
  | zero => exact fun t among => plain.flat t (List.mem_of_mem_take among)
  | succ fuel ih =>
    unfold run
    split
    · exact fun t among => plain.flat t (List.mem_of_mem_take among)
    · rename_i y stepped
      simp only [step, Option.bind_eq_some_iff] at stepped
      obtain ⟨z, read, dropped⟩ := stepped
      have plain := (plain.readNext read).dropStale dropped
      split
      · exact plain.flat
      · exact ih plain

end Lexer

theorem tokens_flat {text : String} (blank : Text.isBlankText text = true) : ∀ t ∈ tokens text, t.Flat := by
  unfold tokens
  dsimp only
  split
  · refine Lexer.run_flat _ ⟨fun c among => List.all_eq_true.1 blank c among, fun t among => ?_⟩
    cases among
  · exact fun t among => absurd among List.not_mem_nil

/-! ## The document of a blank text -/

/-- a scalar, or a place where the text breaks off -/
inductive Node.Flat : Node → Prop
  | scalar (tag : Option String) (style : Style) (text : String) : Flat (.scalar tag style text)
  | broken : Flat .broken

/-- the node at the beginning of flat tokens -/
theorem node_flat {ts : List Token} (flat : ∀ t ∈ ts, t.Flat) (fuel : Nat) (handles : List (String × String)) :
    (node (fuel + 2) true false ⟨ts, handles, []⟩).1.Flat := by
  cases ts with
  | nil =>
    simp only [node, content, Place.properties, Place.fullTag]
    exact .broken
  | cons t rest =>
    cases flat t List.mem_cons_self <;> simp only [node, content, Place.properties, Place.fullTag]
    case scalar style text => exact .scalar none style text
    all_goals exact .broken

theorem Document.root_ofParsed (parsed : Parsed Node) : (Document.ofParsed parsed).root = some parsed.1 := by
  obtain ⟨node, place⟩ := parsed
  cases place <;> rfl

theorem Document.root_flat {ts : List Token} (flat : ∀ t ∈ ts, t.Flat) {node : Node}
    (root : (Document.ofTokens ts).root = some node) : node.Flat := by
  have first := node_flat flat (8 * ts.length + 14) standardHandles
  unfold Document.ofTokens at root
  dsimp only at root
  split at root
  · cases root
  · cases flat _ List.mem_cons_self
  · cases flat _ List.mem_cons_self
  · cases flat _ List.mem_cons_self
  · rw [Document.root_ofParsed, Option.some.injEq] at root
    exact root ▸ first

/-- **A blank text is no mapping.** -/
theorem members?_of_blank {text : String} (blank : Text.isBlankText text = true) :
    (Located.mk (.ofText text) [] (Document.ofText text).root).members? = none := by
  cases root : (Document.ofText text).root with
  | none => rfl
  | some node => cases Document.root_flat (tokens_flat blank) root <;> rfl

end LineTerminal.Yaml
