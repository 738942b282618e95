import RubyBlocks.Proofs.Conversion

/-!
# One line or three

Some blocks can be written on one line and on three and lose nothing on the way:
those with single spaces only, a trimmed body and no vertical bars outside of the
arguments. A `PlainBlock` is such a block, apart from how it is written;
`folded` and `unfolded` are its two forms, and the two conversions take one to the
other.

Folding squeezes what the three lines hold. Each of its pieces either has single
spaces and stays, or is a run of blanks that a line break and an indentation make,
and becomes one space. Unfolding finds the pieces again: the arguments by their
bars, the body by trimming what is left between the braces.
-/

namespace RubyBlocks

/-! ## Pieces of text -/

namespace Text

theorem eraseFirst_append {part rest : Text} (hne : part ≠ []) :
    eraseFirst part (part ++ rest) = rest := by
  obtain ⟨c, part, rfl⟩ := List.exists_cons_of_ne_nil hne
  have hpre : (c :: part).isPrefixOf (c :: (part ++ rest)) = true :=
    List.isPrefixOf_iff_prefix.2 (List.prefix_append (c :: part) rest)
  rw [List.cons_append, eraseFirst, if_pos hpre]
  exact List.drop_left

theorem slice_append {left text right : Text} :
    slice (left ++ (text ++ right)) left.length (left ++ text).length = text := by
  rw [slice, ← List.append_assoc, List.take_left, List.drop_left]

end Text

namespace Block

theorem singleSpaced_argumentTail {params : Option Text}
    (h : ∀ list ∈ params, Text.SingleSpaced list) :
    Text.SingleSpaced (argumentTail params) := by
  cases params with
  | none => exact ⟨by simp [argumentTail], List.isChain_nil⟩
  | some list =>
      have hopen : Text.SingleSpaced [' ', '|'] := by decide +kernel
      have hclose : Text.SingleSpaced (list ++ ['|']) :=
        (h list rfl).concat Text.isBlank_bar
      exact hopen.append hclose (Or.inl Text.isBlank_bar)

end Block

/-! ## Plain blocks -/

/-- A block that reads the same on one line and on three. -/
structure PlainBlock where
  indent : Text
  /-- What stands before the delimiter that opens the block. -/
  head : Text
  /-- The arguments, without their bars. -/
  params : Option Text
  body : Text
  indent_blanks : Text.Blanks indent
  head_start : head.head?.any Text.isBlank = false
  head_spaced : Text.SingleSpaced head
  params_spaced : ∀ list ∈ params, Text.SingleSpaced list
  body_spaced : Text.SingleSpaced body
  body_trimmed : Text.Trimmed body
  head_bars : '|' ∉ head
  body_bars : '|' ∉ body

namespace PlainBlock

variable (p : PlainBlock)

/-- The first line up to the delimiter. -/
def front : Text := p.indent ++ p.head

/-- What stands behind the delimiter that opens the block. -/
def tail : Text := Block.argumentTail p.params

/-- The block on three lines. -/
def unfolded : List Text :=
  [p.front ++ (Side.opening.keyword ++ p.tail),
    p.indent ++ (Block.innerIndent ++ p.body),
    p.indent ++ Side.closing.keyword]

/-- The body with a space before it, if there is one. -/
def spacedBody : Text := if p.body = [] then [] else ' ' :: p.body

/-- What stands between the braces. -/
def inner : Text := p.tail ++ (p.spacedBody ++ [' '])

/-- The block on one line. -/
def folded : Text := p.front ++ '{' :: (p.inner ++ ['}'])

/-- The characters before the brace that closes the block. -/
def closingColumn : Nat := (p.front ++ '{' :: p.inner).length

theorem spacedBody_eq : ∃ gap, Text.Blanks gap ∧ p.spacedBody = gap ++ p.body := by
  rw [spacedBody]
  split <;> rename_i hbody
  · exact ⟨[], by simp [Text.Blanks], by rw [hbody, List.append_nil]⟩
  · exact ⟨[' '], Text.blanks_space, rfl⟩

theorem getLast?_spacedBody :
    p.spacedBody.getLast?.any Text.isBlank = false := by
  rw [spacedBody]
  split <;> rename_i hbody
  · rfl
  · rw [List.getLast?_cons, List.getLast?_eq_some_getLast hbody, Option.getD_some,
      ← List.getLast?_eq_some_getLast hbody]
    exact p.body_trimmed.2

theorem bars_not_mem_front : '|' ∉ p.front := by
  intro hmem
  rcases List.mem_append.1 hmem with h | h
  · exact absurd (p.indent_blanks '|' h) (by simp)
  · exact p.head_bars h

theorem bars_not_mem_spacedBody : '|' ∉ p.spacedBody := by
  rw [spacedBody]
  split
  · exact List.not_mem_nil
  · simpa using p.body_bars

theorem head?_tail : p.tail.head?.any Text.isWord = false := by
  rw [tail]
  cases p.params with
  | none => rfl
  | some list => exact Text.isWord_space

theorem getLast?_indent : p.indent.getLast?.any Text.isWord = false := by
  cases hl : p.indent.getLast? with
  | none => rfl
  | some c =>
      exact Text.isWord_of_isBlank (p.indent_blanks c (List.mem_of_getLast? hl))

/-! Of all blanks but the space, what is not in the indentation is nowhere. -/

section

variable {c : Char} (hc : Text.isBlank c = true) (hne : c ≠ ' ')
include hc hne

theorem not_mem_tail : c ∉ p.tail :=
  (Block.singleSpaced_argumentTail p.params_spaced).not_mem hc hne

theorem not_mem_front (hindent : c ∉ p.indent) : c ∉ p.front := by
  intro hmem
  rcases List.mem_append.1 hmem with h | h
  · exact hindent h
  · exact p.head_spaced.not_mem hc hne h

theorem not_mem_folded (hindent : c ∉ p.indent) : c ∉ p.folded := by
  have hfront := p.not_mem_front hc hne hindent
  have htail := p.not_mem_tail hc hne
  have hbody := p.body_spaced.not_mem hc hne
  have hopen : c ≠ '{' := fun heq => absurd (heq ▸ hc) (by simp)
  have hclose : c ≠ '}' := fun heq => absurd (heq ▸ hc) (by simp)
  have hspaced : c ∉ p.spacedBody := by
    rw [spacedBody]
    split
    · exact List.not_mem_nil
    · simpa using ⟨hne, hbody⟩
  simp [folded, inner, hfront, htail, hspaced, hopen, hclose, hne]

theorem not_mem_unfolded (hindent : c ∉ p.indent) :
    ∀ line ∈ p.unfolded, c ∉ line := by
  have hfront := p.not_mem_front hc hne hindent
  have htail := p.not_mem_tail hc hne
  have hbody := p.body_spaced.not_mem hc hne
  have hkeyword := Block.not_mem_keyword hc
  have hinner : c ∉ Block.innerIndent := by simp [Block.innerIndent, hne]
  simp [unfolded, hindent, hfront, htail, hbody, hkeyword, hinner]

theorem getLast?_unfolded :
    ∀ line ∈ p.unfolded, line.getLast? ≠ some c := by
  have htail := p.not_mem_tail hc hne
  have hbody := p.body_spaced.not_mem hc hne
  have hkeyword := Block.not_mem_keyword hc
  have hinner : c ∉ Block.innerIndent := by simp [Block.innerIndent, hne]
  intro line hline
  simp only [unfolded, List.mem_cons, List.not_mem_nil, or_false] at hline
  rcases hline with rfl | rfl | rfl
  · exact Text.getLast?_append_ne (by simp [Side.keyword])
      (by simp [hkeyword, htail])
  · exact Text.getLast?_append_ne (by simp [Block.innerIndent])
      (by simp [hinner, hbody])
  · exact Text.getLast?_append_ne (by simp [Side.keyword]) (hkeyword _)

end

/-! ## Folding -/

theorem opened_spaced : Text.SingleSpaced (p.head ++ '{' :: p.tail) := by
  have hopen : Text.SingleSpaced (p.head ++ ['{']) :=
    p.head_spaced.concat Text.isBlank_openingBrace
  have htail := Block.singleSpaced_argumentTail p.params_spaced
  have hall := hopen.append htail
    (Or.inl (by simp))
  rwa [List.append_assoc, List.singleton_append] at hall

theorem head?_opened {rest : Text} :
    (p.head ++ '{' :: rest).head?.any Text.isBlank = false := by
  have hstart := p.head_start
  cases hhead : p.head with
  | nil => exact Text.isBlank_openingBrace
  | cons c head => rw [hhead] at hstart; exact hstart

theorem getLast?_opened :
    (p.head ++ '{' :: p.tail).getLast?.any Text.isBlank = false := by
  obtain ⟨init, c, heq, hc⟩ := Block.exists_opened_eq p.head p.params
  rw [tail, heq, List.getLast?_concat]
  rcases hc with rfl | rfl <;> simp

/-- The line breaks on both sides of the body become one space each, or one in all
when there is no body. -/
theorem squeeze_body {left right : Text} (hl : Text.Blanks left) (hle : left ≠ [])
    (hr : Text.Blanks right) (hre : right ≠ []) :
    Text.squeeze (left ++ (p.body ++ (right ++ ['}']))) =
      p.spacedBody ++ [' ', '}'] := by
  have hbrace : (['}'] : Text).head?.any Text.isBlank = false :=
    Text.isBlank_closingBrace
  have hclose : Text.squeeze ['}'] = ['}'] := by
    simp [Text.squeeze, Text.squeezeFrom]
  have hright : Text.squeeze (right ++ ['}']) = [' ', '}'] := by
    rw [Text.squeeze_blanks_append hr hre hbrace, hclose]
  rw [spacedBody]
  split <;> rename_i hbody
  · have hboth : left ++ right ≠ [] := by simp [hle]
    rw [hbody, List.nil_append, ← List.append_assoc,
      Text.squeeze_blanks_append (hl.append hr) hboth hbrace, hclose,
      List.nil_append]
  · have hhead : (p.body ++ (right ++ ['}'])).head?.any Text.isBlank = false := by
      have hstart := p.body_trimmed.1
      cases hb : p.body with
      | nil => exact absurd hb hbody
      | cons c body => rw [hb] at hstart; exact hstart
    rw [Text.squeeze_blanks_append hl hle hhead,
      Text.squeeze_append p.body_spaced p.body_trimmed.2, hright, List.cons_append]

theorem fold_eq :
    Block.fold [p.front ++ '{' :: p.tail, p.indent ++ (Block.innerIndent ++ p.body),
      p.indent ++ ['}']] = p.folded := by
  have hspace := Text.blanks_space
  have hinner : Text.Blanks Block.innerIndent := hspace.append hspace
  have hleft : Text.Blanks ([' '] ++ (p.indent ++ Block.innerIndent)) :=
    hspace.append (p.indent_blanks.append hinner)
  have hright : Text.Blanks ([' '] ++ p.indent) := hspace.append p.indent_blanks
  have hjoin : List.intercalate [' '] [p.front ++ '{' :: p.tail,
      p.indent ++ (Block.innerIndent ++ p.body), p.indent ++ ['}']] =
      p.indent ++ ((p.head ++ '{' :: p.tail) ++
        (([' '] ++ (p.indent ++ Block.innerIndent)) ++
          (p.body ++ (([' '] ++ p.indent) ++ ['}'])))) := by
    simp [List.intercalate, front]
  have hline : Text.squeeze ((p.head ++ '{' :: p.tail) ++
      (([' '] ++ (p.indent ++ Block.innerIndent)) ++
        (p.body ++ (([' '] ++ p.indent) ++ ['}'])))) =
      (p.head ++ '{' :: p.tail) ++ (p.spacedBody ++ [' ', '}']) := by
    rw [Text.squeeze_append p.opened_spaced p.getLast?_opened,
      p.squeeze_body hleft (by simp) hright (by simp)]
  have hindent : Text.indentation (p.front ++ '{' :: p.tail) = p.indent := by
    rw [front, List.append_assoc]
    exact Text.indentation_append p.indent_blanks p.head?_opened
  have hstart : ((p.head ++ '{' :: p.tail) ++
      (([' '] ++ (p.indent ++ Block.innerIndent)) ++
        (p.body ++ (([' '] ++ p.indent) ++ ['}'])))).head?.any Text.isBlank =
      false := by
    rw [List.append_assoc, List.cons_append]
    exact p.head?_opened
  rw [Block.fold, List.head?_cons, Option.map_some, Option.getD_some, hindent, hjoin,
    Text.dropWhile_squeeze_append p.indent_blanks hstart, hline, folded, front, inner]
  simp

theorem toBraces_unfolded {lines : List Text} {block : Block}
    (hsource : Block.sourceLines lines block = .ok p.unfolded)
    (hopening : block.opening.column = p.front.length)
    (hclosing : block.closing.column = p.indent.length)
    (hword : p.front.getLast?.any Text.isWord = false) :
    Block.toBraces lines block = .ok [p.folded] := by
  have hopen : Marker.StandsIn .opening .keyword
      (p.front ++ (Side.opening.keyword ++ p.tail)) p.front.length :=
    Marker.standsIn_keyword_iff.2 ⟨p.front, p.tail, rfl, rfl, hword, p.head?_tail⟩
  have hclose : Marker.StandsIn .closing .keyword
      (p.indent ++ (Side.closing.keyword ++ [])) p.indent.length :=
    Marker.standsIn_keyword_iff.2 ⟨p.indent, [], rfl, rfl, p.getLast?_indent, rfl⟩
  have hlast := Block.replaceKeyword_append ['}'] hclose
  rw [List.append_nil, List.append_nil] at hlast
  have hlines : p.unfolded = (p.front ++ (Side.opening.keyword ++ p.tail)) ::
      ([p.indent ++ (Block.innerIndent ++ p.body)] ++
        [p.indent ++ Side.closing.keyword]) := rfl
  rw [hlines] at hsource
  rw [Block.toBraces_eq hsource, if_neg (by simp), hopening, hclosing,
    Block.replaceKeyword_append _ hopen, hlast]
  exact congrArg (fun line => Except.ok [line]) p.fold_eq

/-! ## Unfolding -/

theorem trim_spacedBody (right : Text) (hr : Text.Blanks right) :
    Text.trim (p.spacedBody ++ right) = p.body := by
  obtain ⟨gap, hgap, heq⟩ := p.spacedBody_eq
  rw [heq, List.append_assoc, Text.trim_blanks hgap p.body_trimmed hr]

theorem inlineBody_folded {block : Block}
    (hopening : block.opening.column = p.front.length)
    (hclosing : block.closing.column = p.closingColumn) :
    Block.inlineBody p.folded block
      (p.params.map fun list => '|' :: (list ++ ['|'])) = p.body := by
  have hspace := Text.blanks_space
  have hslice : Text.slice p.folded (block.opening.column + 1)
      block.closing.column = p.inner := by
    have hcut : p.folded = (p.front ++ ['{']) ++ (p.inner ++ ['}']) := by
      simp [folded]
    have hlen : p.closingColumn = ((p.front ++ ['{']) ++ p.inner).length := by
      simp [closingColumn]
    rw [hopening, hclosing, hcut, hlen, ← List.length_singleton (a := '{'),
      ← List.length_append, Text.slice_append]
  simp only [Block.inlineBody, hslice]
  rw [inner, tail]
  cases p.params with
  | none =>
      show Text.trim (p.spacedBody ++ [' ']) = p.body
      exact p.trim_spacedBody [' '] hspace
  | some list =>
      -- Without the blanks around it, what is left starts with the arguments.
      have htrimmed : Text.Trimmed (('|' :: (list ++ ['|'])) ++ p.spacedBody) := by
        refine ⟨Text.isBlank_bar, ?_⟩
        rw [List.getLast?_append, ← List.cons_append, List.getLast?_concat]
        have hlast := p.getLast?_spacedBody
        cases hl : p.spacedBody.getLast? with
        | none => exact Text.isBlank_bar
        | some c => rw [hl] at hlast; exact hlast
      have hbody : Text.trim (Block.argumentTail (some list) ++
          (p.spacedBody ++ [' '])) = ('|' :: (list ++ ['|'])) ++ p.spacedBody := by
        have hcut := Text.trim_blanks hspace htrimmed hspace
        simpa [Block.argumentTail] using hcut
      have hrest := p.trim_spacedBody [] (by simp [Text.Blanks])
      rw [List.append_nil] at hrest
      rw [hbody]
      show Text.trim (Text.eraseFirst ('|' :: (list ++ ['|'])) _) = p.body
      rw [Text.eraseFirst_append (by simp), hrest]

theorem toKeywords_folded {lines : List Text} {block : Block}
    (hsource : Block.sourceLines lines block = .ok [p.folded])
    (hopening : block.opening.column = p.front.length)
    (hclosing : block.closing.column = p.closingColumn)
    (hfeed : '\n' ∉ p.indent) :
    Block.toKeywords lines block = .ok p.unfolded := by
  have hcut : p.folded = (p.front ++ ['{']) ++
      (Block.argumentTail p.params ++ (p.spacedBody ++ [' ', '}'])) := by
    simp [folded, inner, tail]
  have hindent : Text.indentation p.folded = p.indent := by
    rw [folded, front, List.append_assoc]
    exact Text.indentation_append p.indent_blanks p.head?_opened
  have hargs : Block.arguments? p.folded =
      p.params.map fun list => '|' :: (list ++ ['|']) := by
    have hfree := p.not_mem_folded Text.isBlank_lineFeed (by decide) hfeed
    rw [hcut] at hfree ⊢
    exact Block.arguments?_append hfree (by simpa using p.bars_not_mem_front)
      (by simpa using p.bars_not_mem_spacedBody)
  rw [Block.toKeywords_single hsource, hargs, hindent,
    p.inlineBody_folded hopening hclosing, hopening]
  rw [folded, Block.keywordOpening_eq, List.append_assoc]
  rfl

/-! ## Finding the two forms again

The searches look at the pieces apart, since blanks and braces belong to no word. -/

theorem find_keyword_folded {side : Side}
    (hfront : Marker.find side .keyword p.front 0 = none)
    (htail : Marker.find side .keyword p.tail 0 = none)
    (hbody : Marker.find side .keyword p.body 0 = none) :
    Marker.find side .keyword p.folded 0 = none := by
  have hspace := Text.isWord_space
  have hbrace := Text.isWord_openingBrace
  have hlast : Marker.find side .keyword ['}'] 0 = none :=
    Marker.find_keyword_of_not_isWord (by simp)
  have hinner : Marker.find side .keyword (p.tail ++ p.spacedBody) 0 = none := by
    rw [spacedBody]
    split
    · rw [List.append_nil, htail]
    · exact (Marker.find_keyword_separated_eq_none_iff hspace).2 ⟨htail, hbody⟩
  have hcut : p.inner ++ ['}'] = (p.tail ++ p.spacedBody) ++ ' ' :: ['}'] := by
    simp [inner]
  rw [folded, hcut]
  refine (Marker.find_keyword_separated_eq_none_iff hbrace).2 ⟨hfront, ?_⟩
  exact (Marker.find_keyword_separated_eq_none_iff hspace).2 ⟨hinner, hlast⟩

theorem stripTildes_folded : Marker.stripTildes p.folded = p.folded := by
  have hcut : p.folded = (p.front ++ '{' :: p.inner) ++ ['}'] := by simp [folded]
  rw [hcut, Marker.stripTildes_concat (by decide)]

theorem find_closing_folded :
    Marker.find .closing .brace p.folded (p.front.length + 1) =
      some p.closingColumn := by
  have hcut : p.folded = (p.front ++ '{' :: p.inner) ++ ['}'] := by simp [folded]
  rw [hcut, Marker.find_closing_brace_concat, closingColumn]
  rw [List.length_append, List.length_cons]
  omega

theorem toggle_folded {before after : List Text} (hne : p.front ≠ [])
    (hhash : p.front.getLast? ≠ some '#')
    (hbrace : Marker.find .opening .brace p.front 0 = none)
    (hkeyword : Marker.find .opening .keyword p.folded 0 = none)
    (hfeed : '\n' ∉ p.indent) :
    Block.toggle (before ++ ([p.folded] ++ after)) before.length =
      .ok ⟨p.unfolded, before.length, before.length⟩ := by
  have hopen : Marker.find .opening .brace p.folded 0 = some p.front.length :=
    Marker.find_opening_brace_append hbrace hne hhash
  have hblock : Block.Encloses (before ++ ([p.folded] ++ after)) before.length
      ⟨.brace, ⟨before.length, p.front.length⟩,
        ⟨before.length + 0, p.closingColumn⟩⟩ := by
    refine Block.encloses_append rfl ?_ rfl ?_ fun j _ hj => by omega
    · refine Marker.onLine?_none_eq_some_iff.2 ⟨rfl, ?_, fun _ => ?_⟩
      · rw [p.stripTildes_folded, hopen]
      · rw [p.stripTildes_folded, hkeyword]
    · rw [p.stripTildes_folded]
      exact p.find_closing_folded
  exact Block.toggle_eq_ok hblock (p.toKeywords_folded
    (Block.sourceLines_append rfl rfl (Nat.le_refl _)) rfl rfl hfeed)

/-- The word boundary in front of the `do` keeps everything before it out of the
search for the end. -/
theorem find_closing_unfolded {c : Char} (hlast : p.front.getLast? = some c)
    (hc : Text.isWord c = false)
    (htail : Marker.find .closing .keyword p.tail 0 = none) :
    Marker.find .closing .keyword (p.front ++ (Side.opening.keyword ++ p.tail))
      (p.front.length + 1) = none := by
  have hword : Marker.find .closing .keyword (Side.opening.keyword ++ p.tail) 0 =
      none := by
    rw [tail] at htail ⊢
    cases hp : p.params with
    | none => decide +kernel
    | some list =>
        have hspace := Text.isWord_space
        rw [hp, Block.argumentTail, ← List.nil_append (' ' :: _),
          Marker.find_keyword_separated_eq_none_iff hspace] at htail
        rw [Block.argumentTail]
        exact (Marker.find_keyword_separated_eq_none_iff hspace).2
          ⟨by decide +kernel, htail.2⟩
  obtain ⟨init, hinit⟩ := List.getLast?_eq_some_iff.1 hlast
  rw [hinit, List.append_assoc, List.singleton_append]
  refine Marker.find_keyword_eq_none_of_separated hc ?_ hword
  rw [List.length_append]
  omega

theorem find_keyword_body {side : Side}
    (hbody : Marker.find side .keyword p.body 0 = none) :
    Marker.find side .keyword (p.indent ++ (Block.innerIndent ++ p.body)) 0 =
      none := by
  have hspace := Text.isWord_space
  have hindent : Marker.find side .keyword (p.indent ++ [' ']) 0 = none := by
    refine Marker.find_keyword_of_not_isWord fun c hc => ?_
    rcases List.mem_append.1 hc with h | h
    · exact Text.isWord_of_isBlank (p.indent_blanks c h)
    · rw [List.mem_singleton.1 h, hspace]
  have hcut : p.indent ++ (Block.innerIndent ++ p.body) =
      (p.indent ++ [' ']) ++ ' ' :: p.body := by simp [Block.innerIndent]
  rw [hcut]
  exact (Marker.find_keyword_separated_eq_none_iff hspace).2 ⟨hindent, hbody⟩

theorem find_closing_indent :
    Marker.find .closing .keyword (p.indent ++ Side.closing.keyword) 0 =
      some p.indent.length := by
  have hfree : Marker.find .closing .keyword p.indent 0 = none :=
    Marker.find_keyword_of_not_isWord fun c hc =>
      Text.isWord_of_isBlank (p.indent_blanks c hc)
  rw [← List.append_nil Side.closing.keyword]
  exact Marker.find_keyword_append hfree p.getLast?_indent rfl

theorem toggle_unfolded {before after : List Text} {c : Char}
    (hlast : p.front.getLast? = some c) (hc : Text.isWord c = false)
    (hkeyword : Marker.find .opening .keyword p.front 0 = none)
    (htail : Marker.find .closing .keyword p.tail 0 = none)
    (hbody : Marker.find .closing .keyword p.body 0 = none) :
    Block.toggle (before ++ (p.unfolded ++ after)) before.length =
      .ok ⟨[p.folded], before.length, before.length + 2⟩ := by
  have hword : p.front.getLast?.any Text.isWord = false := by
    rw [hlast]; exact hc
  have hblock : Block.Encloses (before ++ (p.unfolded ++ after)) before.length
      ⟨.keyword, ⟨before.length, p.front.length⟩,
        ⟨before.length + 2, p.indent.length⟩⟩ := by
    refine Block.encloses_append rfl ?_ rfl ?_ fun j line hj hl => ?_
    · refine Marker.onLine?_none_eq_some_iff.2 ⟨rfl, ?_, by simp⟩
      rw [Marker.find_keyword_stripTildes]
      exact Marker.find_keyword_append hkeyword hword p.head?_tail
    · rw [Marker.find_keyword_stripTildes]
      exact p.find_closing_indent
    · rw [Marker.find_keyword_stripTildes]
      rcases Nat.le_one_iff_eq_zero_or_eq_one.1 (Nat.le_of_lt_succ hj) with rfl | rfl
      · cases hl
        exact p.find_closing_unfolded hlast hc htail
      · cases hl
        exact p.find_keyword_body hbody
  exact Block.toggle_eq_ok hblock (p.toBraces_unfolded
    (Block.sourceLines_append rfl rfl (Nat.le_add_right _ _)) rfl rfl hword)

end PlainBlock

end RubyBlocks
