import Mathlib.Data.List.TakeWhile
import Mathlib.Tactic.Common
import Provisioning.Template

/-!
# How a template splits

The pieces of a template are settled by its text alone (`isSplit_iff`): together they are the text,
and no literal stands where a placeholder starts. Rendering fills the placeholders and looks at
nothing twice (`render_splits`). A dollar sign always starts a new piece, since a placeholder has
none inside (`piecesFrom_append_dollar`); so whatever is wrong with an opening, it stays, and the
text goes on behind it.
-/

namespace Provisioning

namespace Template

/-- A name of a placeholder: one or more word characters and points. -/
def IsName (name : List Char) : Prop :=
  name ≠ [] ∧ ∀ c ∈ name, c = '.' ∨ Text.isWordChar c

/-- The placeholder of a name, as it is written. -/
def written (name : List Char) : List Char :=
  '$' :: '\x7b' :: (name ++ ['\x7d'])

/-- A placeholder stands at the start of a text. -/
def Opens (text : List Char) : Prop :=
  ∃ name rest, IsName name ∧ text = written name ++ rest

/-- What a piece is in the text of a template. -/
def Piece.source : Piece → List Char
  | .literal c => [c]
  | .placeholder name => written name.toList

def source (ps : List Piece) : List Char :=
  ps.flatMap Piece.source

/-- A piece can stand before the rest of a text: a placeholder has a name, and a literal is not the
start of a placeholder. -/
def Piece.Fits (rest : List Char) : Piece → Prop
  | .literal c => ¬Opens (c :: rest)
  | .placeholder name => IsName name.toList

/-- The pieces of a text, from the left: each placeholder is the first one that starts after the one
before. -/
structure IsSplit (text : List Char) (ps : List Piece) : Prop where
  source_eq : source ps = text
  fits : ∀ before p after, ps = before ++ p :: after → p.Fits (source after)

section Openings

variable {c : Char} {name name' rest rest' text : List Char}

theorem isNameChar_iff : isNameChar c ↔ c = '.' ∨ Text.isWordChar c := by
  rw [isNameChar, Bool.or_eq_true, beq_iff_eq]

theorem IsName.nameChars (h : IsName name) : ∀ c ∈ name, isNameChar c :=
  fun c hc => isNameChar_iff.2 (h.2 c hc)

theorem isNameChar_close : isNameChar '\x7d' = false := by
  decide

theorem isNameChar_dollar : isNameChar '$' = false := by
  decide

theorem written_append : written name ++ rest = '$' :: '\x7b' :: (name ++ '\x7d' :: rest) := by
  simp [written]

theorem IsName.takeWhile_append (h : IsName name) :
    (name ++ '\x7d' :: rest).takeWhile isNameChar = name := by
  rw [List.takeWhile_append_of_pos h.nameChars,
    List.takeWhile_cons_of_neg (by simp [isNameChar_close]), List.append_nil]

theorem IsName.dollar_not_mem (h : IsName name) : '$' ∉ '\x7b' :: (name ++ ['\x7d']) := by
  intro hmem
  rcases List.mem_cons.1 hmem with hopen | hmem
  · exact absurd hopen (by decide)
  rcases List.mem_append.1 hmem with hmem | hmem
  · exact absurd (h.nameChars _ hmem) (by simp [isNameChar_dollar])
  · exact absurd (List.mem_singleton.1 hmem) (by decide)

/-- A text starts with one placeholder at most. -/
theorem IsName.unique (h : IsName name) (h' : IsName name')
    (he : written name ++ rest = written name' ++ rest') : name = name' ∧ rest = rest' := by
  rw [written_append, written_append, List.cons.injEq, List.cons.injEq] at he
  obtain ⟨-, -, he⟩ := he
  obtain rfl : name = name' := by
    rw [← @IsName.takeWhile_append _ rest h, he, h'.takeWhile_append]
  exact ⟨rfl, (List.cons.inj (List.append_cancel_left he)).2⟩

theorem closedName?_eq_some :
    closedName? text = some name ↔ IsName name ∧ ∃ rest, text = name ++ '\x7d' :: rest := by
  unfold closedName?
  constructor
  · intro h
    simp only [Option.ite_none_right_eq_some, Option.some.injEq] at h
    obtain ⟨⟨hne, hclose⟩, rfl⟩ := h
    obtain ⟨rest, hrest⟩ := List.head?_eq_some_iff.1 hclose
    exact ⟨⟨hne, fun c hc => isNameChar_iff.1 (List.mem_takeWhile_imp hc)⟩, rest,
      hrest ▸ (List.prefix_iff_eq_append.1 (List.takeWhile_prefix isNameChar)).symm⟩
  · rintro ⟨hname, rest, rfl⟩
    rw [hname.takeWhile_append]
    simp [hname.1]

/-- What the scanner takes for a placeholder is one. -/
theorem placeholder_eq_some : (if c = '$' then placeholder? text else none) = some name ↔
    IsName name ∧ ∃ rest, c :: text = written name ++ rest := by
  simp only [written_append, List.cons.injEq, Option.ite_none_right_eq_some]
  rcases text with _ | ⟨b, text⟩
  · simp [placeholder?]
  · by_cases hb : b = '\x7b'
    · subst hb
      simp only [placeholder?, closedName?_eq_some, List.cons.injEq]
      tauto
    · simp [placeholder?, hb]

end Openings

section Pieces

variable {c : Char} {name rest text : List Char} {p : Piece} {ps : List Piece}

theorem piecesFrom_eq_drop : ∀ {skip : Nat} {text : List Char},
    piecesFrom skip text = piecesFrom 0 (text.drop skip)
  | 0, _ => rfl
  | _ + 1, [] => rfl
  | skip + 1, _ :: text => by
    rw [piecesFrom, piecesFrom_eq_drop, List.drop_succ_cons]

theorem piecesFrom_written (h : IsName name) : piecesFrom 0 (written name ++ rest) =
    .placeholder (String.ofList name) :: piecesFrom 0 rest := by
  have hfound : (if '$' = '$' then placeholder? ('\x7b' :: (name ++ '\x7d' :: rest)) else none) =
      some name := placeholder_eq_some.2 ⟨h, rest, written_append.symm⟩
  have hrest : ('\x7b' :: (name ++ '\x7d' :: rest)).drop (name.length + 2) = rest := by
    rw [List.drop_succ_cons, List.drop_append]
    simp
  rw [written_append, piecesFrom, hfound]
  simp only
  rw [piecesFrom_eq_drop, hrest]

theorem piecesFrom_of_not_opens (h : ¬Opens (c :: rest)) :
    piecesFrom 0 (c :: rest) = .literal c :: piecesFrom 0 rest := by
  have hfound : (if c = '$' then placeholder? rest else none) = none :=
    Option.eq_none_iff_forall_not_mem.2 fun name hname => by
      obtain ⟨hn, rest', he⟩ := placeholder_eq_some.1 hname
      exact h ⟨name, rest', hn, he⟩
  rw [piecesFrom, hfound]

/-- A text is empty, or goes on behind a placeholder or a literal. -/
theorem text_induction {motive : List Char → Prop} (nil : motive [])
    (placeholder : ∀ name rest, IsName name → motive rest → motive (written name ++ rest))
    (literal : ∀ c rest, ¬Opens (c :: rest) → motive rest → motive (c :: rest)) :
    ∀ text, motive text
  | [] => nil
  | c :: rest => by
    by_cases h : Opens (c :: rest)
    · obtain ⟨name, rest', hname, he⟩ := h
      have hlength : rest'.length < (c :: rest).length := by
        rw [he, written_append]
        simp
        omega
      rw [he]
      exact placeholder name rest' hname (text_induction nil placeholder literal rest')
    · exact literal c rest h (text_induction nil placeholder literal rest)
termination_by text => text.length
decreasing_by
  · exact hlength
  · exact Nat.lt_succ_self _

theorem isSplit_cons : IsSplit text (p :: ps) ↔
    ∃ rest, text = p.source ++ rest ∧ p.Fits rest ∧ IsSplit rest ps := by
  constructor
  · rintro ⟨rfl, hfits⟩
    exact ⟨source ps, rfl, hfits [] p ps rfl, rfl,
      fun before q after h => hfits (p :: before) q after (congrArg (p :: ·) h)⟩
  · rintro ⟨rest, rfl, hp, rfl, hfits⟩
    refine ⟨rfl, fun before q after h => ?_⟩
    rcases before with _ | ⟨_, before⟩
    · obtain ⟨rfl, rfl⟩ := List.cons.inj h
      exact hp
    · exact hfits before q after (List.cons.inj h).2

theorem isSplit_piecesFrom (text : List Char) : IsSplit text (piecesFrom 0 text) := by
  induction text using text_induction with
  | nil => exact ⟨rfl, fun before p after h => by simp [piecesFrom] at h⟩
  | placeholder name rest hname ih =>
    rw [piecesFrom_written hname]
    refine isSplit_cons.2 ⟨rest, ?_, ?_, ih⟩
    · rw [Piece.source, String.toList_ofList]
    · rwa [Piece.Fits, String.toList_ofList]
  | literal c rest hopens ih =>
    rw [piecesFrom_of_not_opens hopens]
    exact isSplit_cons.2 ⟨rest, rfl, hopens, ih⟩

theorem eq_piecesFrom_of_isSplit (h : IsSplit text ps) : ps = piecesFrom 0 text := by
  induction ps generalizing text with
  | nil =>
    obtain rfl := h.source_eq
    rfl
  | cons p ps ih =>
    obtain ⟨rest, rfl, hp, hps⟩ := isSplit_cons.1 h
    rcases p with c | name
    · rw [Piece.source, List.singleton_append, piecesFrom_of_not_opens hp, ← ih hps]
    · rw [Piece.source, piecesFrom_written hp, String.ofList_toList, ← ih hps]

/-- A text has one split. -/
theorem isSplit_iff : IsSplit text ps ↔ ps = piecesFrom 0 text :=
  ⟨eq_piecesFrom_of_isSplit, fun h => h ▸ isSplit_piecesFrom text⟩

/-- A dollar sign behind a text makes no placeholder of what was none. -/
theorem not_opens_append_dollar (h : ¬Opens (c :: text)) : ¬Opens (c :: (text ++ '$' :: rest)) := by
  rintro ⟨name, rest', hname, he⟩
  rw [← List.cons_append] at he
  rcases List.append_eq_append_iff.1 he with
    ⟨middle, hwritten, hrest⟩ | ⟨middle, htext, -⟩
  · rcases middle with _ | ⟨_, middle⟩
    · rw [List.append_nil] at hwritten
      exact h ⟨name, [], hname, by rw [hwritten, List.append_nil]⟩
    · -- The dollar sign would stand inside the placeholder.
      obtain ⟨rfl, -⟩ := List.cons.inj hrest
      refine hname.dollar_not_mem ?_
      rw [(List.cons.inj hwritten).2]
      simp
  · exact h ⟨name, middle, hname, htext⟩

/-- A dollar sign starts a piece, whatever comes before it. -/
theorem piecesFrom_append_dollar :
    piecesFrom 0 (text ++ '$' :: rest) = piecesFrom 0 text ++ piecesFrom 0 ('$' :: rest) := by
  induction text using text_induction with
  | nil => rfl
  | placeholder name text hname ih =>
    rw [List.append_assoc, piecesFrom_written hname, piecesFrom_written hname, ih, List.cons_append]
  | literal c text hopens ih =>
    rw [piecesFrom_of_not_opens hopens, List.cons_append, List.cons_append, ← ih]
    exact piecesFrom_of_not_opens (not_opens_append_dollar hopens)

/-- An opening that no name and no close follow is two literals. -/
theorem piecesFrom_opening (h : ∀ name tail, IsName name → rest ≠ name ++ '\x7d' :: tail) :
    piecesFrom 0 ('$' :: '\x7b' :: rest) =
      .literal '$' :: .literal '\x7b' :: piecesFrom 0 rest := by
  rw [piecesFrom_of_not_opens, piecesFrom_of_not_opens]
  · rintro ⟨name, tail, -, he⟩
    simp [written_append] at he
  · rintro ⟨name, tail, hname, he⟩
    rw [written_append] at he
    exact h name tail hname (by simpa using he)

end Pieces

section Render

variable {template : String} {vars vars' : Variables}

/-- The text of pieces: the literals as they are, and the values of the names in place of the
placeholders. A name without a value leaves nothing. -/
def fill (vars : Variables) : List Piece → String
  | [] => ""
  | .literal c :: ps => String.singleton c ++ fill vars ps
  | .placeholder name :: ps =>
    match vars.lookup name with
    | some value => value ++ fill vars ps
    | none => fill vars ps

theorem fill_placeholder {name : String} {ps : List Piece} :
    fill vars (.placeholder name :: ps) = (vars.lookup name).getD "" ++ fill vars ps := by
  rw [fill]
  rcases vars.lookup name with _ | value
  · rw [Option.getD_none, String.empty_append]
  · rfl

theorem fill_cons {p : Piece} {ps : List Piece} :
    fill vars (p :: ps) = p.text vars ++ fill vars ps := by
  rcases p with c | name
  · rfl
  · exact fill_placeholder

theorem fill_append {ps qs : List Piece} : fill vars (ps ++ qs) = fill vars ps ++ fill vars qs := by
  induction ps with
  | nil => exact String.empty_append.symm
  | cons p ps ih => rw [List.cons_append, fill_cons, fill_cons, ih, String.append_assoc]

theorem join_eq_fill {ps : List Piece} : String.join (ps.map (Piece.text vars)) = fill vars ps := by
  induction ps with
  | nil => rfl
  | cons p ps ih => rw [List.map_cons, String.join_cons, fill_cons, ih]

theorem render_eq_fill : render template vars = fill vars (pieces template) :=
  join_eq_fill

/-- Only the values of names that occur matter. -/
theorem fill_congr {ps : List Piece}
    (h : ∀ name, Piece.placeholder name ∈ ps → vars.lookup name = vars'.lookup name) :
    fill vars ps = fill vars' ps := by
  induction ps with
  | nil => rfl
  | cons p ps ih =>
    rw [fill_cons, fill_cons, ih fun name hname => h name (List.mem_cons_of_mem p hname)]
    rcases p with c | name
    · rfl
    · rw [Piece.text, Piece.text, h name List.mem_cons_self]

/-- An opening that no name and no close follow stays, and the text behind it is read as if it
stood alone. -/
theorem render_opening {front rest : String}
    (h : ∀ name tail : String, IsName name.toList → rest ≠ name ++ "\x7d" ++ tail) :
    render (front ++ "$\x7b" ++ rest) vars = render front vars ++ "$\x7b" ++ render rest vars := by
  have hrest : ∀ name tail, IsName name → rest.toList ≠ name ++ '\x7d' :: tail := by
    intro name tail hname he
    refine h (String.ofList name) (String.ofList tail) (by rwa [String.toList_ofList]) ?_
    rw [← String.toList_inj, he]
    simp
  have hpieces : pieces (front ++ "$\x7b" ++ rest) =
      pieces front ++ .literal '$' :: .literal '\x7b' :: pieces rest := by
    rw [pieces, String.toList_append, String.toList_append, List.append_assoc]
    exact piecesFrom_append_dollar.trans (congrArg (pieces front ++ ·) (piecesFrom_opening hrest))
  have hopening : String.singleton '$' ++ String.singleton '\x7b' = "$\x7b" := by decide
  calc render (front ++ "$\x7b" ++ rest) vars
      = fill vars (pieces front) ++ (String.singleton '$' ++
          (String.singleton '\x7b' ++ fill vars (pieces rest))) := by
        rw [render_eq_fill, hpieces, fill_append, fill, fill]
    _ = render front vars ++ "$\x7b" ++ render rest vars := by
        rw [← @String.append_assoc (String.singleton '$'), hopening, String.append_assoc,
          render_eq_fill, render_eq_fill]

/-- A template has one split into literals and placeholders, whatever the values, and rendering puts
the values in the place of the placeholders. So a value stands in the result as it is, between what
the pieces before and after it come to, a literal stays there and a name without a value leaves
nothing; only the values of names that occur matter; and an opening that no name and no close follow
stays, with what is behind it read as if it stood alone. -/
theorem render_splits (template : String) :
    (∀ ps, IsSplit template.toList ps ↔ ps = pieces template) ∧
      (∀ vars, render template vars = fill vars (pieces template)) ∧
      (∀ vars before name after value, pieces template = before ++ .placeholder name :: after →
        vars.lookup name = some value →
          render template vars = fill vars before ++ value ++ fill vars after) ∧
      (∀ vars before name after, pieces template = before ++ .placeholder name :: after →
        vars.lookup name = none → render template vars = fill vars before ++ fill vars after) ∧
      (∀ vars before c after, pieces template = before ++ .literal c :: after →
        render template vars = fill vars before ++ String.singleton c ++ fill vars after) ∧
      (∀ vars vars', (∀ name, Piece.placeholder name ∈ pieces template →
        vars.lookup name = vars'.lookup name) → render template vars = render template vars') ∧
      ∀ front rest, template = front ++ "$\x7b" ++ rest →
        (∀ name tail : String, IsName name.toList → rest ≠ name ++ "\x7d" ++ tail) →
          ∀ vars, render template vars = render front vars ++ "$\x7b" ++ render rest vars := by
  refine ⟨fun ps => isSplit_iff, fun vars => render_eq_fill, ?_, ?_, ?_,
    fun vars vars' h => ?_, ?_⟩
  · intro vars before name after value hpieces hvalue
    rw [render_eq_fill, hpieces, fill_append, fill_placeholder, hvalue, Option.getD_some,
      String.append_assoc]
  · intro vars before name after hpieces hnone
    rw [render_eq_fill, hpieces, fill_append, fill_placeholder, hnone, Option.getD_none,
      String.empty_append]
  · intro vars before c after hpieces
    rw [render_eq_fill, hpieces, fill_append, fill, String.append_assoc]
  · rw [render_eq_fill, render_eq_fill, fill_congr h]
  · rintro front rest rfl hrest vars
    exact render_opening hrest

/-- Values that look like placeholders, or become part of one, are not looked at again. -/
example : render "$$\x7ba\x7d$\x7bb\x7d$\x7ba.$\x7bc\x7d"
    [("a", "\x7bb\x7d"), ("b", "$\x7bc\x7d")] = "$\x7bb\x7d$\x7bc\x7d$\x7ba." := by
  decide

end Render

end Template

end Provisioning
