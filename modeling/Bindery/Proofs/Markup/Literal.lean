import Bindery.Proofs.Markup.Forest

/-!
# Runs are read as they stand

The text of a run has no markup left in it: read on its own it is one run again, the same text and
not set in any way (`Markup.runs_of_mem_runs`).  So markup that is kept as text is not markup that
was overlooked.

Text is kept on two ways.  What stands outside of all tags of a level may still hold closing tags,
since they close nothing; and a tag that is never closed is kept with everything after it, be that
other tags or even whole pairs of them.  In both cases the parts of the text are enough to see why
(`IsLiteral`), and parts that are literal are kept when they are a level of their own.

What is left to show is that a text which is cut out has the parts that it had in place.  A text
that is cut between two of its parts is split in the same way on both sides (`pieces_of_append`): a
tag that is there after the cut was there before, since whether a text begins with a tag is decided
by the tag alone.
-/

namespace Bindery

namespace Markup

/-! ## Cutting a text between its parts -/

/-- What follows a tag has no say in whether a text begins with it. -/
theorem Tag.first?_append {text rest : List Char} {tag : Tag} (h : first? text = some (tag, rest))
    (more : List Char) : first? (text ++ more) = some (tag, rest ++ more) := by
  rw [raw_of_first? h, List.append_assoc, first?_raw_append (isNamed_of_first? h)]

theorem pieces_nil : pieces [] = [] := by
  rw [pieces]

/-- A character that begins no tag is a part of its own. -/
theorem pieces_cons_of_first?_eq_none {c : Char} {text : List Char}
    (h : Tag.first? (c :: text) = none) : pieces (c :: text) = .char c :: pieces text := by
  rw [pieces]
  split
  · next hsome =>
    rw [h] at hsome
    exact absurd hsome (by simp)
  · rfl

/-- **A text that is cut between two of its parts** has the parts before the cut on one side and
those after it on the other. -/
theorem pieces_of_append {text : List Char} {before after : List Piece}
    (h : pieces text = before ++ after) :
    pieces (before.flatMap Piece.raw) = before ∧ pieces (after.flatMap Piece.raw) = after := by
  induction before generalizing text with
  | nil =>
    rw [List.nil_append] at h
    rw [← h, flatMap_raw_pieces]
    exact ⟨pieces_nil, rfl⟩
  | cons piece before ih =>
    cases text with
    | nil =>
      rw [pieces_nil] at h
      exact absurd h (by simp)
    | cons c text =>
      rw [pieces] at h
      split at h
      · next tag rest hfirst =>
        obtain ⟨rfl, hrest⟩ := List.cons.inj h
        obtain ⟨hbefore, hafter⟩ := ih hrest
        refine ⟨?_, hafter⟩
        rw [List.flatMap_cons, Piece.raw, pieces_raw_append (Tag.isNamed_of_first? hfirst), hbefore]
      · next hfirst =>
        obtain ⟨rfl, hrest⟩ := List.cons.inj h
        rw [List.append_eq] at hrest
        obtain ⟨hbefore, hafter⟩ := ih hrest
        -- what begins with a tag before the cut would do so in the whole text
        have hnone : Tag.first? (c :: before.flatMap Piece.raw) = none := by
          by_contra hsome
          obtain ⟨found, hfound⟩ := Option.ne_none_iff_exists'.1 hsome
          have hwhole := Tag.first?_append hfound (after.flatMap Piece.raw)
          rw [List.cons_append, ← List.flatMap_append, ← hrest, flatMap_raw_pieces,
            hfirst] at hwhole
          exact absurd hwhole (by simp)
        refine ⟨?_, hafter⟩
        rw [List.flatMap_cons, Piece.raw, List.singleton_append,
          pieces_cons_of_first?_eq_none hnone, hbefore]

/-- What is cut out of a text between its parts has the parts that it had in place. -/
theorem pieces_cut {text : List Char} {part : List Piece} (h : part <:+: pieces text) :
    pieces (part.flatMap Piece.raw) = part := by
  obtain ⟨before, after, hparts⟩ := h
  have hfirst := (pieces_of_append hparts.symm).1
  exact (pieces_of_append hfirst).2

/-! ## Literal parts -/

/-- Whether the parts are kept as text if they are a level of their own. -/
inductive IsLiteral : List Piece → Prop
  /-- No tag among them opens. -/
  | unopened {parts : List Piece} (h : ∀ tag, .tag tag ∈ parts → tag.closing = true) :
      IsLiteral parts
  /-- The first of them is a tag that opens, and no other one closes it. -/
  | unclosed {tag : Tag} {rest : List Piece} (hopens : tag.closing = false)
      (h : splitAtClose? tag.label 0 rest = none) : IsLiteral (.tag tag :: rest)

/-- A level without opening tags is a single text. -/
theorem segmentsOf_of_unopened {parts : List Piece}
    (h : ∀ tag, .tag tag ∈ parts → tag.closing = true) :
    segmentsOf parts = [.text (parts.flatMap Piece.raw)] := by
  fun_induction segmentsOf parts with
  | case1 => rfl
  | case2 c rest ih =>
    rw [ih fun tag htag => h tag (List.mem_cons_of_mem _ htag)]
    rfl
  | case3 closer rest _ ih =>
    rw [ih fun tag htag => h tag (List.mem_cons_of_mem _ htag)]
    rfl
  | case4 opener rest hopens => exact absurd (h opener List.mem_cons_self) hopens
  | case5 opener rest hopens => exact absurd (h opener List.mem_cons_self) hopens

/-- A level that begins with a tag that is not closed is a single text. -/
theorem segmentsOf_of_unclosed {tag : Tag} {rest : List Piece} (hopens : tag.closing = false)
    (h : splitAtClose? tag.label 0 rest = none) :
    segmentsOf (.tag tag :: rest) =
      [.text [], .text ((Piece.tag tag :: rest).flatMap Piece.raw)] := by
  rw [segmentsOf]
  simp only [hopens, Bool.false_eq_true, if_false]
  split
  · next hsome =>
    rw [h] at hsome
    exact absurd hsome (by simp)
  · rfl

/-- **The texts of a level are literal.**  The first one is what stands before any opening tag, and
the parts of the other ones are literal too. -/
theorem exists_parts_segmentsOf (parts : List Piece) :
    ∃ before rest, (∀ tag, .tag tag ∈ before → tag.closing = true) ∧ before <+: parts ∧
      segmentsOf parts = .text (before.flatMap Piece.raw) :: rest ∧
      ∀ t, .text t ∈ rest → ∃ part, part <:+: parts ∧ part.flatMap Piece.raw = t ∧
        IsLiteral part := by
  fun_induction segmentsOf parts with
  | case1 => exact ⟨[], [], by simp, List.prefix_rfl, rfl, by simp⟩
  | case2 c behind ih =>
    obtain ⟨before, rest, hbefore, hprefix, hsegments, hrest⟩ := ih
    refine ⟨.char c :: before, rest, ?_, List.cons_prefix_cons.2 ⟨rfl, hprefix⟩, ?_, ?_⟩
    · intro tag htag
      exact hbefore tag ((List.mem_cons.1 htag).resolve_left (by simp))
    · rw [hsegments]
      rfl
    · intro t ht
      obtain ⟨part, hpart, hraw, hliteral⟩ := hrest t ht
      exact ⟨part, hpart.trans (List.suffix_cons _ _).isInfix, hraw, hliteral⟩
  | case3 closer behind hcloses ih =>
    obtain ⟨before, rest, hbefore, hprefix, hsegments, hrest⟩ := ih
    refine ⟨.tag closer :: before, rest, ?_, List.cons_prefix_cons.2 ⟨rfl, hprefix⟩, ?_, ?_⟩
    · intro tag htag
      rcases List.mem_cons.1 htag with heq | htag
      · rw [Piece.tag.inj heq, hcloses]
      · exact hbefore tag htag
    · rw [hsegments]
      rfl
    · intro t ht
      obtain ⟨part, hpart, hraw, hliteral⟩ := hrest t ht
      exact ⟨part, hpart.trans (List.suffix_cons _ _).isInfix, hraw, hliteral⟩
  | case4 opener behind _ inner after hsplit _ ih =>
    obtain ⟨before, rest, hbefore, hprefix, hsegments, hrest⟩ := ih
    obtain ⟨closer, -, -, rfl⟩ := append_of_splitAtClose? hsplit
    have hafter : after <:+: .tag opener :: (inner ++ .tag closer :: after) :=
      ⟨.tag opener :: (inner ++ [.tag closer]), [], by simp⟩
    refine ⟨[], _, by simp, List.nil_prefix, rfl, ?_⟩
    intro t ht
    rw [hsegments] at ht
    rcases List.mem_cons.1 ht with heq | ht
    · exact absurd heq (by simp)
    · rcases List.mem_cons.1 ht with heq | ht
      · -- the text up to the next opening tag
        obtain rfl := Segment.text.inj heq
        exact ⟨before, hprefix.isInfix.trans hafter, rfl, .unopened hbefore⟩
      · obtain ⟨part, hpart, hraw, hliteral⟩ := hrest t ht
        exact ⟨part, hpart.trans hafter, hraw, hliteral⟩
  | case5 opener behind hopens hsplit =>
    refine ⟨[], _, by simp, List.nil_prefix, rfl, ?_⟩
    intro t ht
    obtain rfl := Segment.text.inj (List.mem_singleton.1 ht)
    exact ⟨_, List.infix_rfl, rfl, .unclosed (Bool.eq_false_iff.2 hopens) hsplit⟩

theorem isLiteral_of_mem_segments {text t : List Char} (h : .text t ∈ segments text) :
    IsLiteral (pieces t) := by
  obtain ⟨before, rest, hbefore, hprefix, hsegments, hrest⟩ := exists_parts_segmentsOf (pieces text)
  rw [segments, hsegments] at h
  rcases List.mem_cons.1 h with heq | h
  · obtain rfl := Segment.text.inj heq
    rw [pieces_cut hprefix.isInfix]
    exact .unopened hbefore
  · obtain ⟨part, hpart, rfl, hliteral⟩ := hrest t h
    rwa [pieces_cut hpart]

/-! ## Final texts -/

/-- Whether a text is read as it stands. -/
structure IsFinal (text : List Char) : Prop where
  isBlank : Text.isBlank text = false
  isLiteral : IsLiteral (pieces text)

variable {text : List Char}

/-- A literal text is the only one of its level that is not empty. -/
theorem segments_of_isLiteral (h : IsLiteral (pieces text)) :
    segments text = [.text text] ∨ segments text = [.text [], .text text] := by
  have hraw := flatMap_raw_pieces text
  rw [segments]
  generalize pieces text = parts at h hraw
  cases h with
  | unopened h =>
    rw [segmentsOf_of_unopened h, hraw]
    exact Or.inl rfl
  | unclosed hopens h =>
    rw [segmentsOf_of_unclosed hopens h, hraw]
    exact Or.inr rfl

/-- **A final text is one run.** -/
theorem IsFinal.runsIn_eq (h : IsFinal text) (script : Script) :
    runsIn script text = [⟨String.ofList text, script⟩] := by
  have hrun : Segment.runsIn script (.text text) = [⟨String.ofList text, script⟩] := by
    rw [Segment.runsIn, h.isBlank]
    rfl
  rw [Markup.runsIn_eq]
  rcases segments_of_isLiteral h.isLiteral with hsegments | hsegments
  · rw [hsegments, List.flatMap_singleton, hrun]
  · rw [hsegments, List.flatMap_cons, List.flatMap_singleton, hrun]
    rfl

/-- Nothing in a final text lies inside of tags. -/
theorem IsFinal.inner_notMem_segments (h : IsFinal text) (label inner : List Char) :
    .inner label inner ∉ segments text := by
  rcases segments_of_isLiteral h.isLiteral with hsegments | hsegments
  · simp [hsegments]
  · simp [hsegments]

/-- **The text of every run is final.** -/
theorem isFinal_of_mem_runsIn {script : Script} {run : Run} (h : run ∈ runsIn script text) :
    IsFinal run.text.toList := by
  induction hlength : text.length using Nat.strong_induction_on generalizing script text with
  | _ n ih =>
    subst hlength
    rw [Markup.runsIn_eq] at h
    obtain ⟨segment, hsegment, hrun⟩ := List.mem_flatMap.1 h
    cases segment with
    | inner label inner => exact ih inner.length (length_of_mem_segments hsegment) hrun rfl
    | text t =>
      rw [Segment.runsIn] at hrun
      split at hrun
      · exact absurd hrun List.not_mem_nil
      · next hblank =>
        obtain rfl := List.mem_singleton.1 hrun
        rw [String.toList_ofList]
        exact ⟨Bool.eq_false_iff.2 hblank, isLiteral_of_mem_segments hsegment⟩

/-- **Runs are final.**  The text of a run is read as a single run, plain and with the same text,
and nothing in it lies inside of tags. -/
theorem runs_of_mem_runs {text : String} {run : Run} (h : run ∈ runs text) :
    runs run.text = [⟨run.text, .plain⟩] ∧
      ∀ label inner, .inner label inner ∉ segments run.text.toList := by
  have hfinal : IsFinal run.text.toList := isFinal_of_mem_runsIn h
  refine ⟨?_, hfinal.inner_notMem_segments⟩
  rw [runs, hfinal.runsIn_eq, String.ofList_toList]

/-- A superscript in which a tag is never closed. -/
def unclosedInScript : String :=
  "<sup><sub>x</sup>"

theorem runs_unclosedInScript : runs unclosedInScript = [⟨"<sub>x", ⟨false, true⟩⟩] := by
  let sub : Tag := ⟨false, ['s', 'u', 'b']⟩
  have hnamed : sub.IsNamed := by decide
  have hinner : pieces "<sub>x".toList = [.tag sub, .char 'x'] := by
    show pieces (sub.raw ++ (['x'] ++ [])) = _
    rw [pieces_raw_append hnamed, pieces_append (by decide), pieces_nil]
    rfl
  have hpieces : pieces unclosedInScript.toList =
      [.tag superscriptPair.opener, .tag sub, .char 'x', .tag superscriptPair.closer] := by
    show pieces (superscriptPair.opener.raw ++
      (sub.raw ++ (['x'] ++ (superscriptPair.closer.raw ++ [])))) = _
    rw [pieces_raw_append superscriptPair.opener_named, pieces_raw_append hnamed,
      pieces_append (by decide), pieces_raw_append superscriptPair.closer_named, pieces_nil]
    rfl
  have hsegments : segments unclosedInScript.toList =
      [.text [], .inner superscriptPair.label "<sub>x".toList, .text []] := by
    rw [segments, hpieces, segmentsOf_of_closed superscriptPair.opener_opens rfl, segmentsOf]
    rfl
  have hfinal : IsFinal "<sub>x".toList := by
    refine ⟨by decide, ?_⟩
    rw [hinner]
    exact .unclosed rfl rfl
  have hinside : runsIn (scriptInside .plain superscriptPair.label) "<sub>x".toList =
      [⟨"<sub>x", ⟨false, true⟩⟩] := by
    rw [hfinal.runsIn_eq, String.ofList_toList]
    rfl
  rw [runs, Markup.runsIn_eq, hsegments, List.flatMap_cons, List.flatMap_cons,
    List.flatMap_singleton, Segment.runsIn, Segment.runsIn, hinside]
  rfl

/-- The tag stays in the text of the run, which is read as it stands and not set in any way. -/
theorem unclosedInScript_final :
    (⟨"<sub>x", ⟨false, true⟩⟩ : Run) ∈ runs unclosedInScript ∧
      runs "<sub>x" = [⟨"<sub>x", .plain⟩] ∧
      ∀ label inner, .inner label inner ∉ segments "<sub>x".toList := by
  have hmem : (⟨"<sub>x", ⟨false, true⟩⟩ : Run) ∈ runs unclosedInScript := by
    rw [runs_unclosedInScript]
    exact List.mem_singleton_self _
  exact ⟨hmem, runs_of_mem_runs hmem⟩

end Markup

end Bindery
