import Provisioning.Json.Reader
import Provisioning.Proofs.Numerals

/-!
# Values as they are read back

A value is read back from its text as it was, apart from three things (`ofText?_text`): a double
becomes what its decimal is rounded to, and null if it is not finite; an integer that does not fit
sixty-four bits becomes a double; and where arrays and objects nest too deep nothing can be read.
-/

namespace Provisioning.Json

open Reader Numeral

section Strings

variable {c : Char} {cs rest : List Char}

/-- What reading a string makes of a letter and what comes behind it. -/
def consCode (code : Nat) : Option (List Nat × List Char) → Option (List Nat × List Char) :=
  Option.map fun r => (code :: r.1, r.2)

theorem escape?_of_shortEscape? {letter : Char} (h : shortEscape? c = some letter) :
    escape? letter = some c.toNat ∧ letter ≠ 'u' := by
  unfold shortEscape? at h
  split at h <;> simp_all <;> subst h <;> decide

theorem codes?_escape {letter : Char} {code : Nat} (h : escape? letter = some code)
    (hu : letter ≠ 'u') : codes? ('\\' :: letter :: rest) = consCode code (codes? rest) := by
  rw [codes?, h]
  · rcases codes? rest with _ | r <;> rfl
  · rintro a b c d rest' rfl
    exact fun _ => hu rfl

theorem codes?_unit {a b c d : Char} {n : Nat} (h : unit? a b c d = some n) :
    codes? ('\\' :: 'u' :: a :: b :: c :: d :: rest) = consCode n (codes? rest) := by
  rw [codes?, h]
  rcases codes? rest with _ | r <;> rfl

theorem unit?_ofNat : ∀ n < 0x20,
    unit? '0' '0' (Text.Hex.digit (n / 16 % 16)) (Text.Hex.digit (n % 16)) = some n := by
  decide

theorem codes?_plain (h : shortEscape? c = none) (hc : ¬ c.toNat < 0x20) :
    codes? (c :: rest) = consCode c.toNat (codes? rest) := by
  have hquote : c ≠ '"' := by
    rintro rfl
    cases h
  have hslash : c ≠ '\\' := by
    rintro rfl
    cases h
  rw [codes?, if_neg hc]
  · rcases codes? rest with _ | r <;> rfl
  all_goals intros; simp_all

theorem codes?_escaped : codes? (escaped c ++ rest) = consCode c.toNat (codes? rest) := by
  unfold escaped
  rcases h : shortEscape? c with _ | letter
  · dsimp only
    split_ifs with hc
    · exact codes?_unit (unit?_ofNat c.toNat hc)
    · exact codes?_plain h hc
  · exact codes?_escape (escape?_of_shortEscape? h).1 (escape?_of_shortEscape? h).2

theorem codes?_quoted : ∀ {cs : List Char},
    codes? (cs.flatMap escaped ++ '"' :: rest) = some (cs.map Char.toNat, rest)
  | [] => by rw [List.flatMap_nil, List.nil_append, codes?]; rfl
  | c :: cs => by
    rw [List.flatMap_cons, List.append_assoc, codes?_escaped, codes?_quoted]
    rfl

/-- A character is no half of a surrogate pair. -/
theorem no_half : isHigh c.toNat = false ∧ isLow c.toNat = false := by
  have hvalid := c.valid
  simp only [UInt32.isValidChar, Nat.isValidChar] at hvalid
  rw [isHigh, isLow, Char.toNat]
  simp only [Bool.and_eq_false_iff, decide_eq_false_iff_not]
  omega

theorem characters?_toNat : ∀ {cs : List Char}, characters? (cs.map Char.toNat) = some cs
  | [] => rfl
  | [c] => by simp [characters?, no_half]
  | a :: b :: cs => by
    have ih : characters? (b.toNat :: cs.map Char.toNat) = some (b :: cs) :=
      @characters?_toNat (b :: cs)
    simp [characters?, no_half, ih]

theorem string?_quoted {s : String} :
    string? (s.toList.flatMap escaped ++ '"' :: rest) = some (.str s, rest) := by
  rw [string?, codes?_quoted]
  simp [characters?_toNat]

end Strings

section Values

mutual

/-- What is read where a value was written, when `depth` arrays and objects may nest there. -/
def reread (depth : Nat) : Json → Json
  | .null => .null
  | .bool b => .bool b
  | .int n => (Numeral.ofInt n).toJson
  | .double d => if d.isFinite then (Numeral.ofDouble d).toJson else .null
  | .str s => .str s
  | .arr items => nested depth (.arr (rereadItems (depth - 1) items))
  | .obj fields => nested depth (.obj (rereadFields (depth - 1) fields))
  | .unreadable => .null

def rereadItems (depth : Nat) : List Json → List Json
  | [] => []
  | j :: rest => j.reread depth :: rereadItems depth rest

def rereadFields (depth : Nat) : List (String × Json) → List (String × Json)
  | [] => []
  | (name, j) :: rest => (name, j.reread depth) :: rereadFields depth rest

end

variable {rest : List Char}

/-- The texts of several values with commas between them. -/
def joined (texts : List String) : List Char :=
  (",".intercalate texts).toList

theorem joined_singleton {t : String} : joined [t] = t.toList := by
  rw [joined, String.intercalate_singleton]

theorem joined_cons {t u : String} {ts : List String} :
    joined (t :: u :: ts) = t.toList ++ ',' :: joined (u :: ts) := by
  rw [joined, joined, String.intercalate_cons_cons, String.toList_append, String.toList_append,
    List.append_assoc]
  rfl

theorem toList_text_arr {items : List Json} :
    (text (.arr items)).toList = '[' :: (joined (itemTexts items) ++ [']']) := by
  rw [text, String.toList_append, String.toList_append]
  rfl

theorem toList_text_obj {fields : List (String × Json)} :
    (text (.obj fields)).toList = '\x7b' :: (joined (fieldTexts fields) ++ ['\x7d']) := by
  rw [text, String.toList_append, String.toList_append]
  rfl

theorem toList_quoted {s : String} :
    (quoted s).toList = '"' :: (s.toList.flatMap escaped ++ ['"']) := by
  rw [quoted, String.toList_append, String.toList_append, String.toList_ofList,
    String.toList_ofList]
  rfl

theorem skipBlanks_cons {c : Char} (h : isBlank c = false) :
    skipBlanks (c :: rest) = c :: rest := by
  rw [skipBlanks, List.dropWhile_cons_of_neg (by rw [h]; exact Bool.false_ne_true)]

/-- Whether a number starts with a character. -/
def opensNumber (c : Char) : Bool :=
  c.isDigit || c == '-'

theorem exists_opensNumber {n : Numeral} (hn : n.Proper) :
    ∃ c cs, n.chars = c :: cs ∧ opensNumber c := by
  obtain ⟨negative, whole, fraction, exponent⟩ := n
  obtain ⟨hne, hwhole, -, -⟩ := hn
  rcases negative with _ | _
  · rcases whole with _ | ⟨d, whole⟩
    · exact absurd rfl hne
    · exact ⟨d, _, rfl, by rw [opensNumber, hwhole d List.mem_cons_self, Bool.true_or]⟩
  · exact ⟨'-', _, rfl, rfl⟩

theorem isBlank_of_opensNumber {c : Char} (hc : opensNumber c) : isBlank c = false := by
  rw [Bool.eq_false_iff]
  intro hb
  simp only [isBlank, Bool.or_eq_true, beq_iff_eq] at hb
  rcases hb with ((rfl | rfl) | rfl) | rfl <;> cases hc

theorem value?_opensNumber {c : Char} {cs : List Char} {fuel depth : Nat} (hc : opensNumber c) :
    value? (fuel + 1) depth (c :: cs) =
      (Numeral.read? (c :: cs)).map fun r => (r.1.toJson, r.2) := by
  rw [value?, skipBlanks_cons (isBlank_of_opensNumber hc)]
  split
  all_goals try (rename_i h; obtain ⟨rfl, -⟩ := List.cons.inj h; cases hc)
  rcases Numeral.read? (c :: cs) with _ | r <;> rfl

theorem value?_number {n : Numeral} {fuel depth : Nat} (hn : n.Proper) (hrest : closes rest) :
    value? (fuel + 1) depth (n.chars ++ rest) = some (n.toJson, rest) := by
  have hread := read?_chars hn hrest
  obtain ⟨c, cs, hcs, hc⟩ := exists_opensNumber hn
  rw [hcs, List.cons_append] at hread ⊢
  rw [value?_opensNumber hc, hread]
  rfl

/-- A text of a value starts with a character that says of which kind it is. -/
theorem exists_opens (j : Json) :
    ∃ c cs, j.text.toList = c :: cs ∧ isBlank c = false ∧ c ≠ ']' := by
  have hnumber {n : Numeral} (hn : n.Proper) :
      ∃ c cs, n.chars = c :: cs ∧ isBlank c = false ∧ c ≠ ']' := by
    obtain ⟨c, cs, hcs, hc⟩ := exists_opensNumber hn
    exact ⟨c, cs, hcs, isBlank_of_opensNumber hc, by rintro rfl; cases hc⟩
  rcases j with _ | b | n | d | s | items | fields | _
  · exact ⟨'n', _, rfl, rfl, by decide⟩
  · rcases b with _ | _
    · exact ⟨'f', _, rfl, rfl, by decide⟩
    · exact ⟨'t', _, rfl, rfl, by decide⟩
  · rw [text, ← chars_ofInt]
    exact hnumber proper_ofInt
  · rw [text]
    split_ifs
    · rw [← chars_ofDouble]
      exact hnumber proper_ofDouble
    · exact ⟨'n', _, rfl, rfl, by decide⟩
  · exact ⟨'"', _, toList_quoted, rfl, by decide⟩
  · exact ⟨'[', _, toList_text_arr, rfl, by decide⟩
  · exact ⟨'\x7b', _, toList_text_obj, rfl, by decide⟩
  · exact ⟨'n', _, rfl, rfl, by decide⟩

theorem length_text_pos {j : Json} : 0 < j.text.toList.length := by
  obtain ⟨c, cs, hcs, -⟩ := exists_opens j
  rw [hcs]
  exact Nat.succ_pos _

/-- Steps for a text leave two for what comes around it. -/
theorem exists_steps (j : Json) {fuel : Nat} (h : 2 * j.text.toList.length + 1 ≤ fuel) :
    ∃ k, fuel = k + 1 + 1 := by
  have := @length_text_pos j
  exact ⟨fuel - 2, by omega⟩

theorem value?_null {fuel depth : Nat} :
    value? (fuel + 1) depth ("null".toList ++ rest) = some (.null, rest) := by
  rfl

theorem value?_bool {fuel depth : Nat} {b : Bool} :
    value? (fuel + 1) depth ((text (.bool b)).toList ++ rest) = some (.bool b, rest) := by
  rcases b with _ | _ <;> rfl

theorem value?_quoted {fuel depth : Nat} {s : String} :
    value? (fuel + 1) depth ((quoted s).toList ++ rest) = some (.str s, rest) := by
  rw [toList_quoted, List.cons_append, List.append_assoc, value?, skipBlanks_cons (by decide)]
  exact string?_quoted

section Steps

variable {fuel depth : Nat} {cs rest' : List Char} {name value : Json}

theorem items?_last (h : value? fuel depth cs = some (value, ']' :: rest)) :
    Reader.items? (fuel + 1) depth cs = some ([value], rest) := by
  rw [Reader.items?, h]
  rfl

theorem items?_more {items : List Json} (h : value? fuel depth cs = some (value, ',' :: rest))
    (hmore : Reader.items? fuel depth rest = some (items, rest')) :
    Reader.items? (fuel + 1) depth cs = some (value :: items, rest') := by
  rw [Reader.items?, h]
  simp only [Option.bind_eq_bind, Option.bind_some]
  rw [skipBlanks_cons (by decide)]
  simp only [hmore, Option.bind_some]
  rfl

theorem fields?_last (hname : name? cs = some (name, rest))
    (h : value? fuel depth rest = some (value, '\x7d' :: rest')) :
    fields? (fuel + 1) depth cs = some ([(name, value)], rest') := by
  rw [fields?, hname]
  simp only [Option.bind_eq_bind, Option.bind_some, h]
  rfl

theorem fields?_more {rest'' : List Char} {fields : List (Json × Json)}
    (hname : name? cs = some (name, rest))
    (h : value? fuel depth rest = some (value, ',' :: rest'))
    (hmore : fields? fuel depth rest' = some (fields, rest'')) :
    fields? (fuel + 1) depth cs = some ((name, value) :: fields, rest'') := by
  rw [fields?, hname]
  simp only [Option.bind_eq_bind, Option.bind_some, h]
  rw [skipBlanks_cons (by decide)]
  simp only [hmore, Option.bind_some]
  rfl

theorem name?_quoted {s : String} :
    name? ((quoted s).toList ++ ':' :: rest) = some (.str s, rest) := by
  rw [toList_quoted, List.cons_append, List.append_assoc, name?, skipBlanks_cons (by decide)]
  show (string? (s.toList.flatMap escaped ++ '"' :: ':' :: rest) >>= fun _ => _) = _
  rw [string?_quoted]
  rfl

end Steps

theorem exists_joined_items {items : List Json} (hne : items ≠ []) :
    ∃ c cs, joined (itemTexts items) = c :: cs ∧ isBlank c = false ∧ c ≠ ']' := by
  rcases items with _ | ⟨j, _ | ⟨k, items⟩⟩
  · exact absurd rfl hne
  · rw [itemTexts, itemTexts, joined_singleton]
    exact exists_opens j
  · obtain ⟨c, cs, hcs, hc⟩ := exists_opens j
    refine ⟨c, cs ++ ',' :: joined (itemTexts (k :: items)), ?_, hc⟩
    rw [itemTexts, itemTexts, joined_cons, hcs]
    rfl

theorem exists_joined_fields {fields : List (String × Json)} (hne : fields ≠ []) :
    ∃ cs, joined (fieldTexts fields) = '"' :: cs := by
  have hfield {name : String} {j : Json} :
      ∃ cs, (quoted name ++ ":" ++ j.text).toList = '"' :: cs := by
    rw [String.toList_append, String.toList_append, toList_quoted]
    exact ⟨_, rfl⟩
  rcases fields with _ | ⟨⟨name, j⟩, _ | ⟨f, fields⟩⟩
  · exact absurd rfl hne
  · rw [fieldTexts, fieldTexts, joined_singleton]
    exact hfield
  · obtain ⟨cs, hcs⟩ := @hfield name j
    rw [fieldTexts, fieldTexts, joined_cons, hcs]
    exact ⟨_, rfl⟩

theorem value?_arr {fuel depth : Nat} {items : List Json} (hne : items ≠ [])
    (h : Reader.items? fuel (depth - 1) (joined (itemTexts items) ++ ']' :: rest) =
      some (rereadItems (depth - 1) items, rest)) :
    value? (fuel + 1) depth ((text (.arr items)).toList ++ rest) =
      some (reread depth (.arr items), rest) := by
  obtain ⟨c, cs, hcs, hblank, hclose⟩ := exists_joined_items hne
  rw [toList_text_arr, List.cons_append, List.append_assoc, value?, skipBlanks_cons (by decide)]
  rw [hcs, List.cons_append] at h ⊢
  simp only [List.cons_append, List.nil_append]
  rw [skipBlanks_cons hblank]
  split
  · rename_i hhead
    exact absurd (List.cons.inj hhead).1 hclose
  · rw [h]
    rfl

theorem object_named (fields : List (String × Json)) :
    object (fields.map fun f => (.str f.1, f.2)) = .obj fields := by
  have hnamed : ∀ fields : List (String × Json),
      (fields.map fun f => ((.str f.1 : Json), f.2)).mapM named? = some fields := by
    intro fields
    induction fields with
    | nil => rfl
    | cons f fields ih =>
      rw [List.map_cons, List.mapM_cons, ih]
      rfl
  rw [object, hnamed]

theorem value?_obj {fuel depth : Nat} {fields : List (String × Json)} (hne : fields ≠ [])
    (h : fields? fuel (depth - 1) (joined (fieldTexts fields) ++ '\x7d' :: rest) =
      some ((rereadFields (depth - 1) fields).map fun f => (.str f.1, f.2), rest)) :
    value? (fuel + 1) depth ((text (.obj fields)).toList ++ rest) =
      some (reread depth (.obj fields), rest) := by
  obtain ⟨cs, hcs⟩ := exists_joined_fields hne
  rw [toList_text_obj, List.cons_append, List.append_assoc, value?, skipBlanks_cons (by decide)]
  rw [hcs, List.cons_append] at h ⊢
  simp only [List.cons_append, List.nil_append]
  rw [skipBlanks_cons (by decide)]
  split
  · rename_i hhead
    exact absurd (List.cons.inj hhead).1 (by decide)
  · simp only [h, Option.bind_eq_bind, Option.bind_some, object_named]
    rfl

mutual

/-- A value is read from its text, with as many steps as there are characters twice over. -/
theorem value?_text : ∀ (j : Json) (fuel depth : Nat) (rest : List Char), closes rest →
    2 * j.text.toList.length ≤ fuel + 1 →
      value? (fuel + 1) depth (j.text.toList ++ rest) = some (j.reread depth, rest)
  | .null => fun _ _ _ _ _ => value?_null
  | .unreadable => fun _ _ _ _ _ => value?_null
  | .bool b => fun _ _ _ _ _ => value?_bool
  | .str s => fun _ _ _ _ _ => value?_quoted
  | .int n => by
    intro fuel depth rest hrest _
    rw [text, ← chars_ofInt, reread]
    exact value?_number proper_ofInt hrest
  | .double d => by
    intro fuel depth rest hrest _
    rw [text, reread]
    split_ifs
    · rw [← chars_ofDouble]
      exact value?_number proper_ofDouble hrest
    · exact value?_null
  | .arr items => by
    intro fuel depth rest hrest hfuel
    by_cases hne : items = []
    · subst hne
      rfl
    · rw [toList_text_arr, List.length_cons, List.length_append, List.length_singleton] at hfuel
      exact value?_arr hne (items?_text items _ _ _ hne (by omega))
  | .obj fields => by
    intro fuel depth rest hrest hfuel
    by_cases hne : fields = []
    · subst hne
      rfl
    · rw [toList_text_obj, List.length_cons, List.length_append, List.length_singleton] at hfuel
      exact value?_obj hne (fields?_text fields _ _ _ hne (by omega))

theorem items?_text : ∀ (items : List Json) (fuel depth : Nat) (rest : List Char), items ≠ [] →
    2 * (joined (itemTexts items)).length + 1 ≤ fuel →
      Reader.items? fuel depth (joined (itemTexts items) ++ ']' :: rest) =
        some (rereadItems depth items, rest)
  | [] => fun _ _ _ hne _ => (hne rfl).elim
  | [j] => by
    intro fuel depth rest _ hfuel
    rw [itemTexts, itemTexts, joined_singleton] at hfuel ⊢
    obtain ⟨fuel, rfl⟩ := exists_steps j (by omega : 2 * j.text.toList.length + 1 ≤ fuel)
    exact items?_last (value?_text j _ _ _ rfl (by omega))
  | j :: k :: items => by
    intro fuel depth rest _ hfuel
    rw [itemTexts, itemTexts, joined_cons, ← itemTexts] at hfuel ⊢
    rw [List.length_append, List.length_cons] at hfuel
    rw [List.append_assoc, List.cons_append]
    obtain ⟨fuel, rfl⟩ := exists_steps j (by omega : 2 * j.text.toList.length + 1 ≤ fuel)
    exact items?_more (value?_text j _ _ _ rfl (by omega))
      (items?_text (k :: items) _ _ _ (by simp) (by omega))

theorem fields?_text : ∀ (fields : List (String × Json)) (fuel depth : Nat) (rest : List Char),
    fields ≠ [] → 2 * (joined (fieldTexts fields)).length + 1 ≤ fuel →
      fields? fuel depth (joined (fieldTexts fields) ++ '\x7d' :: rest) =
        some ((rereadFields depth fields).map fun f => (.str f.1, f.2), rest)
  | [] => fun _ _ _ hne _ => (hne rfl).elim
  | [(name, j)] => by
    intro fuel depth rest _ hfuel
    rw [fieldTexts, fieldTexts, joined_singleton, String.toList_append, String.toList_append,
      List.length_append, List.length_append] at hfuel
    rw [fieldTexts, fieldTexts, joined_singleton, String.toList_append, String.toList_append,
      List.append_assoc, List.append_assoc]
    obtain ⟨fuel, rfl⟩ := exists_steps j (by omega : 2 * j.text.toList.length + 1 ≤ fuel)
    exact fields?_last name?_quoted (value?_text j _ _ _ rfl (by omega))
  | (name, j) :: (name', j') :: fields => by
    intro fuel depth rest _ hfuel
    rw [fieldTexts, fieldTexts, joined_cons, ← fieldTexts, String.toList_append, List.length_append,
      String.toList_append, List.length_append, List.length_cons] at hfuel
    rw [fieldTexts, fieldTexts, joined_cons, ← fieldTexts, String.toList_append,
      String.toList_append, List.append_assoc, List.append_assoc, List.append_assoc,
      List.cons_append]
    obtain ⟨fuel, rfl⟩ := exists_steps j (by omega : 2 * j.text.toList.length + 1 ≤ fuel)
    exact fields?_more name?_quoted (value?_text j _ _ _ rfl (by omega))
      (fields?_text ((name', j') :: fields) _ _ _ (by simp) (by omega))

end

/-- What is read of a text that was written. -/
theorem ofText?_text (j : Json) : ofText? j.text = some (j.reread 127) := by
  have hread := value?_text j (2 * j.text.toList.length + 1) 127 [] rfl (by omega)
  rw [List.append_nil] at hread
  rw [ofText?, ← String.length_toList, hread]
  rfl

end Values

end Provisioning.Json
