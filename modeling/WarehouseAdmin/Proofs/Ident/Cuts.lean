import WarehouseAdmin.Proofs.Ident.Arguments

/-!
# Where a list is cut

A comma cuts a list if it is at depth zero, and that is a matter of all that stands before it.
`IsCutInto` says of pieces that they are what is between these commas: with commas put between them
they make up the text, and the commas between them are the ones that cut. There is one way only to
take a text apart like this, and the reader of lists finds it (`isCutInto_iff`).

The pieces are trimmed in the end. This changes neither the depth behind a piece nor the commas in
it, so pieces that are joined again are cut where they were joined (`splitChars_intercalate`). Signatures
and the names of functions are read, written and compared piece by piece because of that.
-/

set_option autoImplicit false

namespace WarehouseAdmin.Arguments

open Text (isBlank isBlankText trimChars)

variable {a b cs rest : List Char} {ps : List (List Char)}

/-! ## Commas that cut -/

/-- Behind `before` the text has a comma at depth zero. -/
def IsCut (cs before : List Char) : Prop :=
  before ++ [','] <+: cs ∧ depthBehind 0 before = 0

theorem isUncut_iff {depth : Nat} :
    isUncut depth cs = true ↔ ∀ p, p ++ [','] <+: cs → depthBehind depth p ≠ 0 := by
  induction cs generalizing depth with
  | nil => simp [isUncut]
  | cons c cs ih =>
    rw [isUncut_cons, ih]
    constructor
    · rintro ⟨hhead, htail⟩ p hp
      cases p with
      | nil =>
        obtain ⟨rfl, -⟩ := List.cons_prefix_cons.mp hp
        exact fun hzero => hhead ⟨rfl, hzero⟩
      | cons d p =>
        obtain ⟨rfl, htailprefix⟩ := List.cons_prefix_cons.mp hp
        exact htail p htailprefix
    · intro h
      refine ⟨?_, fun p hp => h (c :: p) (List.cons_prefix_cons.mpr ⟨rfl, hp⟩)⟩
      rintro ⟨rfl, rfl⟩
      exact h [] (List.cons_prefix_cons.mpr ⟨rfl, List.nil_prefix⟩) rfl

/-- The first comma at depth zero, and those behind it. -/
theorem isCut_append (ha : isUncut 0 a = true) (hdepth : depthBehind 0 a = 0) :
    IsCut (a ++ ',' :: rest) b ↔ b = a ∨ ∃ c, b = a ++ ',' :: c ∧ IsCut rest c := by
  have hcomma (c : List Char) : depthBehind 0 (a ++ ',' :: c) = depthBehind 0 c := by
    rw [depthBehind_append, hdepth]
    rfl
  constructor
  · rintro ⟨⟨t, ht⟩, hzero⟩
    rw [List.append_assoc] at ht
    rcases List.append_eq_append_iff.mp ht with ⟨x, rfl, hx⟩ | ⟨x, rfl, hx⟩
    · cases x with
      | nil => exact .inl (List.append_nil b).symm
      -- Otherwise the comma would be one of those before the first that cuts.
      | cons d x =>
        obtain ⟨rfl, -⟩ := List.cons.inj hx
        have hprefix : b ++ [','] <+: b ++ ',' :: x := ⟨x, by simp⟩
        exact absurd hzero (isUncut_iff.mp ha b hprefix)
    · cases x with
      | nil => exact .inl (List.append_nil a)
      | cons d x =>
        obtain ⟨rfl, rfl⟩ := List.cons.inj hx
        rw [hcomma] at hzero
        exact .inr ⟨x, rfl, ⟨t, by simp⟩, hzero⟩
  · rintro (rfl | ⟨c, rfl, ⟨t, rfl⟩, hzero⟩)
    · exact ⟨⟨rest, by simp⟩, hdepth⟩
    · exact ⟨⟨t, by simp⟩, (hcomma c).trans hzero⟩

/-! ## Pieces between commas -/

/-- Of the commas that join the pieces, one stands behind `before`. -/
def IsJoint (ps : List (List Char)) (before : List Char) : Prop :=
  ∃ front back, front ≠ [] ∧ back ≠ [] ∧ ps = front ++ back ∧ before = [','].intercalate front

/-- The pieces make up the text, and the commas that join them are those at depth zero. -/
structure IsCutInto (cs : List Char) (ps : List (List Char)) : Prop where
  ne_nil : ps ≠ []
  joined : [','].intercalate ps = cs
  cut_iff : ∀ before, IsCut cs before ↔ IsJoint ps before

theorem joined_cons (h : ps ≠ []) :
    [','].intercalate (a :: ps) = a ++ ',' :: [','].intercalate ps := by
  rw [List.intercalate_cons_of_ne_nil h, List.append_assoc]
  rfl

theorem not_isJoint_singleton : ¬ IsJoint [a] b := by
  rintro ⟨front, back, hfront, hback, h, -⟩
  rcases List.append_eq_singleton_iff.mp h.symm with ⟨hnil, -⟩ | ⟨-, hnil⟩
  · exact hfront hnil
  · exact hback hnil

theorem isJoint_cons (hps : ps ≠ []) :
    IsJoint (a :: ps) b ↔ b = a ∨ ∃ c, b = a ++ ',' :: c ∧ IsJoint ps c := by
  constructor
  · rintro ⟨front, back, hfront, hback, h, rfl⟩
    obtain ⟨x, front, rfl⟩ := List.exists_cons_of_ne_nil hfront
    obtain ⟨rfl, rfl⟩ := List.cons.inj h
    by_cases hnil : front = []
    · subst hnil
      exact .inl List.intercalate_singleton
    · exact .inr ⟨_, joined_cons hnil, front, back, hnil, hback, rfl, rfl⟩
  · rintro (rfl | ⟨c, rfl, front, back, hfront, hback, rfl, rfl⟩)
    · exact ⟨[b], ps, List.cons_ne_nil b [], hps, rfl, List.intercalate_singleton.symm⟩
    · exact ⟨a :: front, back, List.cons_ne_nil a front, hback, rfl, (joined_cons hfront).symm⟩

/-- Taking the first piece away, with the comma that cuts it off. -/
theorem isCutInto_cons (ha : isUncut 0 a = true) (hdepth : depthBehind 0 a = 0) :
    IsCutInto (a ++ ',' :: rest) (a :: ps) ↔ IsCutInto rest ps := by
  have hbehind (b c : List Char) : a ++ ',' :: b = a ++ ',' :: c ↔ b = c := by simp
  constructor
  · intro h
    have hps : ps ≠ [] := by
      rintro rfl
      have hjoined := h.joined
      rw [List.intercalate_singleton] at hjoined
      exact absurd hjoined (by simp)
    refine ⟨hps, ?_, fun b => ?_⟩
    · exact (hbehind _ _).mp ((joined_cons hps).symm.trans h.joined)
    · have hcut := h.cut_iff (a ++ ',' :: b)
      rw [isCut_append ha hdepth, isJoint_cons hps] at hcut
      simpa using hcut
  · intro h
    refine ⟨List.cons_ne_nil a ps, ?_, fun b => ?_⟩
    · rw [joined_cons h.ne_nil, h.joined]
    · rw [isCut_append ha hdepth, isJoint_cons h.ne_nil]
      simp only [h.cut_iff]

/-- **A text is cut into its pieces, and into nothing else.** -/
theorem isCutInto_iff : IsCutInto cs ps ↔ ps = pieces 0 cs := by
  refine pieces_induction (motive := fun cs qs => ∀ ps, IsCutInto cs ps ↔ ps = qs) ?_ ?_ cs ps
  · intro cs huncut ps
    have hnone (b : List Char) : ¬ IsCut cs b := fun h => isUncut_iff.mp huncut b h.1 h.2
    constructor
    · intro h
      obtain ⟨p, ps, rfl⟩ := List.exists_cons_of_ne_nil h.ne_nil
      by_cases hps : ps = []
      · have hjoined := h.joined
        rw [hps, List.intercalate_singleton] at hjoined
        rw [hps, hjoined]
      · exact absurd ((h.cut_iff p).mpr ((isJoint_cons hps).mpr (.inl rfl))) (hnone p)
    · rintro rfl
      refine ⟨List.cons_ne_nil cs [], List.intercalate_singleton, fun b => ?_⟩
      exact iff_of_false (hnone b) not_isJoint_singleton
  · intro a rest ha hdepth ih ps
    constructor
    · intro h
      obtain ⟨p, ps, rfl⟩ := List.exists_cons_of_ne_nil h.ne_nil
      have hfirst : IsJoint (p :: ps) a :=
        (h.cut_iff a).mp ((isCut_append ha hdepth).mpr (.inl rfl))
      have hps : ps ≠ [] := by
        rintro rfl
        exact not_isJoint_singleton hfirst
      -- Each of the two is the beginning of the other, or the same.
      obtain rfl : p = a := by
        have hcut : IsCut (a ++ ',' :: rest) p :=
          (h.cut_iff p).mpr ((isJoint_cons hps).mpr (.inl rfl))
        rcases (isCut_append ha hdepth).mp hcut with hpa | ⟨c, hp, -⟩
        · exact hpa
        · rcases (isJoint_cons hps).mp hfirst with hap | ⟨d, hd, -⟩
          · exact hap.symm
          · have hp := congrArg List.length hp
            have hd := congrArg List.length hd
            simp only [List.length_append, List.length_cons] at hp hd
            omega
      rw [(ih ps).mp ((isCutInto_cons ha hdepth).mp h)]
    · rintro rfl
      exact (isCutInto_cons ha hdepth).mpr ((ih _).mpr rfl)

/-! ## Joining pieces again -/

/-- Blank characters in front, as many as there are. -/
theorem map_trimChars_pieces_append {bs : List Char} (hbs : bs.all isBlank = true) :
    (pieces 0 (bs ++ cs)).map trimChars = (pieces 0 cs).map trimChars := by
  induction bs with
  | nil => rfl
  | cons c bs ih =>
    rw [List.all_cons, Bool.and_eq_true] at hbs
    rw [List.cons_append, map_trimChars_pieces_blank hbs.1, ih hbs.2]

/-- Pieces that no comma cuts, all closed but perhaps the last, are cut where they were joined. -/
theorem map_trimChars_pieces_intercalate {bs : List Char} (hbs : bs.all isBlank = true)
    (hne : ps ≠ []) (huncut : ∀ p ∈ ps, isUncut 0 p = true)
    (hdepth : ∀ p ∈ ps.dropLast, depthBehind 0 p = 0) :
    (pieces 0 ((',' :: bs).intercalate ps)).map trimChars = ps.map trimChars := by
  induction ps with
  | nil => exact absurd rfl hne
  | cons p ps ih =>
    rw [List.forall_mem_cons] at huncut
    cases ps with
    | nil => rw [List.intercalate_singleton, pieces_of_isUncut huncut.1]
    | cons q ps =>
      rw [List.dropLast_cons_of_ne_nil (List.cons_ne_nil q ps), List.forall_mem_cons] at hdepth
      have hrest := ih (List.cons_ne_nil q ps) huncut.2 hdepth.2
      rw [List.intercalate_cons_cons, List.append_assoc, List.cons_append,
        pieces_cut huncut.1 hdepth.1, List.map_cons, map_trimChars_pieces_append hbs, hrest]
      rfl

theorem trimChars_trimChars (cs : List Char) : trimChars (trimChars cs) = trimChars cs := by
  by_cases hnil : trimChars cs = []
  · rw [hnil]
    rfl
  · have htrim : Text.trim (String.ofList cs) = String.ofList (trimChars cs) := by
      rw [Text.trim, String.toList_ofList]
    have htidy := Text.isTidy_trim (s := String.ofList cs) (by rw [htrim]; simpa using hnil)
    rw [htrim] at htidy
    simpa using trimChars_toList htidy

/-- What was read is read again, with a comma and any blanks between the pieces. -/
theorem splitChars_intercalate {bs : List Char} (hbs : bs.all isBlank = true) (cs : List Char) :
    splitChars ((',' :: bs).intercalate (splitChars cs)) = splitChars cs := by
  have hcases : splitChars cs = [] ∨
      splitChars cs = (pieces 0 cs).map trimChars ∧ (pieces 0 cs).map trimChars ≠ [[]] := by
    unfold splitChars
    split
    · exact .inl rfl
    · next hne => exact .inr ⟨rfl, hne⟩
  rcases hcases with hnil | ⟨hitems, hne⟩
  · rw [hnil, List.intercalate_nil]
    rfl
  · have hjoined : (pieces 0 ((',' :: bs).intercalate ((pieces 0 cs).map trimChars))).map trimChars =
        (pieces 0 cs).map trimChars := by
      rw [map_trimChars_pieces_intercalate hbs]
      · rw [List.map_map]
        exact List.map_congr_left fun p _ => trimChars_trimChars p
      · simpa using pieces_ne_nil cs
      · intro t ht
        obtain ⟨p, hp, rfl⟩ := List.mem_map.mp ht
        exact isUncut_trimChars (isUncut_of_mem_pieces hp)
      · intro t ht
        rw [← List.map_dropLast] at ht
        obtain ⟨p, hp, rfl⟩ := List.mem_map.mp ht
        exact (depthBehind_trimChars p).trans (depthBehind_of_mem_pieces hp)
    rw [hitems]
    unfold splitChars
    rw [hjoined]
    split
    · next h => exact absurd h hne
    · rfl

theorem split_intercalate_split {sep : String} {bs : List Char} (hsep : sep.toList = ',' :: bs)
    (hbs : bs.all isBlank = true) (s : String) :
    split (String.intercalate sep (split s)) = split s := by
  have hitems : (split s).map String.toList = splitChars s.toList := by
    rw [split, List.map_map]
    exact (List.map_congr_left fun cs _ => String.toList_ofList).trans (List.map_id _)
  rw [split, String.toList_intercalate, hitems, hsep, splitChars_intercalate hbs, split]

/-- **Lists are cut at the commas at depth zero, and the pieces stay what they are.** The list is what
stands between these commas, trimmed; a blank text has none of them, and its list is empty. Joined with
commas, with a blank behind each or without, the list is read again; and a piece that is not empty,
read alone, is the list of itself. -/
theorem split_stable (s : String) :
    (∃ ps, IsCutInto s.toList ps ∧ (∀ qs, IsCutInto s.toList qs → qs = ps) ∧
      split s = if isBlankText s then [] else ps.map fun p => Text.trim (String.ofList p)) ∧
    split (String.intercalate "," (split s)) = split s ∧
    split (String.intercalate ", " (split s)) = split s ∧
    ∀ t ∈ split s, t ≠ "" → split t = [t] := by
  refine ⟨⟨pieces 0 s.toList, isCutInto_iff.mpr rfl, fun qs => isCutInto_iff.mp, ?_⟩,
    split_intercalate_split rfl rfl s, split_intercalate_split rfl (by decide) s, ?_⟩
  · by_cases hblank : isBlankText s = true
    · have htrim : trimChars s.toList = [] := Text.trimChars_eq_nil_iff.mpr hblank
      rw [if_pos hblank, split, splitChars, pieces_of_isUncut (isUncut_blank hblank 0),
        List.map_singleton, htrim]
      rfl
    · have htrim : trimChars s.toList ≠ [] := fun hnil => hblank (Text.trimChars_eq_nil_iff.mp hnil)
      rw [if_neg hblank, split, splitChars_eq htrim, List.map_map]
      refine List.map_congr_left fun p _ => ?_
      rw [Text.trim, String.toList_ofList]
      rfl
  · intro t ht hne
    obtain ⟨htidy, huncut⟩ := isArgumentType_iff.mp (isArgumentType_of_mem_split ht hne)
    exact split_of_isUncut htidy huncut

/-- A parenthesis too many, an empty piece, and a piece at the end that is never closed. -/
theorem split_stable_unbalanced :
    let s := " F(A, B)) , ,MAP(K, (V "
    split s = ["F(A, B))", "", "MAP(K, (V"] ∧
      split (String.intercalate "," (split s)) = split s ∧
      split (String.intercalate ", " (split s)) = split s ∧
      "MAP(K, (V" ∈ split s ∧ "MAP(K, (V" ≠ "" ∧ split "MAP(K, (V" = ["MAP(K, (V"] := by
  intro s
  have hs : split s = ["F(A, B))", "", "MAP(K, (V"] := by decide
  have hmem : "MAP(K, (V" ∈ split s := by
    rw [hs]
    simp
  have hne : "MAP(K, (V" ≠ "" := by decide
  obtain ⟨-, hcomma, hblank, halone⟩ := split_stable s
  exact ⟨hs, hcomma, hblank, hmem, hne, halone _ hmem hne⟩

end WarehouseAdmin.Arguments
