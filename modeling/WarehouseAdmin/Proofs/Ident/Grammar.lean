import WarehouseAdmin.Proofs.Ident.Parts

/-!
# The grammar of dotted names

What the reader of dotted names accepts is said here without the reader. A name is a row of segments
with points between them. A segment is a run of characters that are neither points nor quotes and
stands for itself, or it is put between quotes, with every quote inside doubled, and stands for what
it holds when each pair is one (`Spells`). A `Reading` of a text is one way to take it apart.

The reader goes from left to right and never comes back, so one segment has to tell where it ends,
whatever is behind it. That is `Segment.eq_of_append`: of two segments at the head of the same text,
behind each of which a part may end, neither reaches further than the other. It needs no argument of
its own, because `readPart` finds every such segment (`readPart_eq_ok_iff`), and a function finds
only one.
-/

set_option autoImplicit false

namespace WarehouseAdmin.Parts

/-! ## Segments -/

/-- What may stand between the quotes of a segment, and what it comes to when each pair of quotes is
one. -/
inductive Halves : List Char → List Char → Prop where
  | nil : Halves [] []
  | other {c : Char} {body part : List Char} (hc : c ≠ '"') (h : Halves body part) :
      Halves (c :: body) (c :: part)
  | pair {body part : List Char} (h : Halves body part) :
      Halves ('"' :: '"' :: body) ('"' :: part)

/-- The text is a segment of a dotted name and stands for the part. -/
inductive Spells : List Char → List Char → Prop where
  | plain {run : List Char} (hne : run ≠ []) (h : ∀ c ∈ run, c ≠ '.' ∧ c ≠ '"') : Spells run run
  | quoted {body part : List Char} (hne : body ≠ []) (h : Halves body part) :
      Spells ('"' :: (body ++ ['"'])) part

structure Segment where
  text : List Char
  part : List Char
  spells : Spells text part

/-- A way to read the text as a dotted name. -/
structure Reading (text : List Char) where
  segments : List Segment
  ne_nil : segments ≠ []
  joined : ['.'].intercalate (segments.map Segment.text) = text

/-- What the segments stand for, in order. -/
def Reading.parts {text : List Char} (r : Reading text) : List String :=
  r.segments.map fun s => String.ofList s.part

/-! ## One segment is read -/

/-- Halving undoes doubling, and nothing else is halved. -/
theorem halves_iff {body part : List Char} :
    Halves body part ↔ body = Text.doubleQuotes '"' part := by
  constructor
  · intro h
    induction h with
    | nil => rfl
    | other hc _ ih => rw [Text.doubleQuotes, if_neg hc, ih]
    | pair _ ih => rw [Text.doubleQuotes, if_pos rfl, ih]
  · rintro rfl
    induction part with
    | nil => exact .nil
    | cons c part ih =>
      rw [Text.doubleQuotes]
      by_cases hc : c = '"'
      · rw [if_pos hc, hc]
        exact .pair ih
      · rw [if_neg hc]
        exact .other hc ih

theorem eq_of_readQuoted {cs part rest : List Char} (h : readQuoted cs = some (part, rest)) :
    cs = Text.doubleQuotes '"' part ++ '"' :: rest := by
  fun_induction readQuoted cs generalizing part rest with
  | case1 => exact absurd h (by simp)
  | case2 cs ih =>
    obtain ⟨⟨p, after⟩, hp, he⟩ := Option.map_eq_some_iff.mp h
    obtain ⟨rfl, rfl⟩ := Prod.mk.inj he
    rw [ih hp, Text.doubleQuotes, if_pos rfl]
    rfl
  | case3 cs _ =>
    obtain ⟨rfl, rfl⟩ := Prod.mk.inj (Option.some.inj h)
    rfl
  | case4 c cs _ hc ih =>
    obtain ⟨⟨p, after⟩, hp, he⟩ := Option.map_eq_some_iff.mp h
    obtain ⟨rfl, rfl⟩ := Prod.mk.inj he
    rw [ih hp, Text.doubleQuotes, if_neg hc]
    rfl

theorem isPlain_iff {c : Char} : isPlain c = true ↔ c ≠ '.' ∧ c ≠ '"' := by
  simp [isPlain]

/-- A run is read up to where a part may end, which is before no character of a run. -/
theorem readPart_plain {run rest : List Char} (hne : run ≠ [])
    (hrun : ∀ c ∈ run, c ≠ '.' ∧ c ≠ '"') (hrest : endsPart rest = true) :
    readPart (run ++ rest) = .ok (run, rest) := by
  have hplain : ∀ c ∈ run, isPlain c = true := fun c hc => isPlain_iff.mpr (hrun c hc)
  have htake : rest.takeWhile isPlain = [] ∧ rest.dropWhile isPlain = rest := by
    cases rest with
    | nil => exact ⟨rfl, rfl⟩
    | cons c rest =>
      obtain rfl : c = '.' := by simpa [endsPart] using hrest
      exact ⟨rfl, rfl⟩
  have hhead : ∀ body, run ++ rest ≠ '"' :: body := by
    intro body h
    cases run with
    | nil => exact hne rfl
    | cons c run => exact (hrun c List.mem_cons_self).2 (List.cons.inj h).1
  unfold readPart
  split
  · next body h => exact absurd h (hhead body)
  · rw [List.takeWhile_append_of_pos hplain, List.dropWhile_append_of_pos hplain, htake.1, htake.2,
      if_pos hrest, List.append_nil]

/-- **The reader of one part finds every segment that it can begin with**, and nothing else. -/
theorem readPart_eq_ok_iff {cs part rest : List Char} (hpart : part ≠ []) :
    readPart cs = .ok (part, rest) ↔
      ∃ s : Segment, s.part = part ∧ cs = s.text ++ rest ∧ endsPart rest = true := by
  constructor
  · intro h
    unfold readPart at h
    split at h
    · next body =>
      split at h
      · exact nomatch h
      · next p r hread =>
        split at h
        · next hends =>
          obtain ⟨rfl, rfl⟩ := Prod.mk.inj (Except.ok.inj h)
          have hbody : Text.doubleQuotes '"' p ≠ [] := by
            intro hnil
            have hhalves : Halves [] p := halves_iff.mpr hnil.symm
            cases hhalves
            exact hpart rfl
          refine ⟨⟨_, p, .quoted hbody (halves_iff.mpr rfl)⟩, rfl, ?_, hends⟩
          rw [eq_of_readQuoted hread]
          simp
        · exact nomatch h
    · split at h
      · next hends =>
        obtain ⟨rfl, rfl⟩ := Prod.mk.inj (Except.ok.inj h)
        have hrun : ∀ c ∈ cs.takeWhile isPlain, c ≠ '.' ∧ c ≠ '"' := fun c hc =>
          isPlain_iff.mp (List.all_eq_true.mp List.all_takeWhile c hc)
        exact ⟨⟨_, _, .plain hpart hrun⟩, rfl, List.takeWhile_append_dropWhile.symm, hends⟩
      · exact nomatch h
  · rintro ⟨⟨text, part, hspells⟩, rfl, rfl, hends⟩
    cases hspells with
    | plain hne hrun => exact readPart_plain hne hrun hends
    | quoted _ h =>
      obtain rfl := halves_iff.mp h
      have hread := readPart_quoted hends part
      simpa using hread

theorem Segment.part_ne_nil (s : Segment) : s.part ≠ [] := by
  obtain ⟨text, part, hspells⟩ := s
  cases hspells with
  | plain hne _ => exact hne
  | quoted hne h =>
    cases h with
    | nil => exact absurd rfl hne
    | other _ _ => exact List.cons_ne_nil _ _
    | pair _ => exact List.cons_ne_nil _ _

/-- **A segment tells where it ends.** -/
theorem Segment.eq_of_append {s s' : Segment} {rest rest' : List Char}
    (h : s.text ++ rest = s'.text ++ rest') (hrest : endsPart rest = true)
    (hrest' : endsPart rest' = true) : s = s' ∧ rest = rest' := by
  have hread := (readPart_eq_ok_iff s.part_ne_nil).mpr ⟨s, rfl, rfl, hrest⟩
  have hread' := (readPart_eq_ok_iff s'.part_ne_nil).mpr ⟨s', rfl, rfl, hrest'⟩
  rw [h, hread'] at hread
  obtain ⟨hpart, rfl⟩ := Prod.mk.inj (Except.ok.inj hread)
  obtain ⟨text, part, hspells⟩ := s
  obtain ⟨text', part', hspells'⟩ := s'
  obtain rfl : text = text' := List.append_cancel_right h
  obtain rfl : part' = part := hpart
  exact ⟨rfl, rfl⟩

/-! ## All segments are read -/

theorem joined_cons_cons (s t : Segment) (rest : List Segment) :
    ['.'].intercalate ((s :: t :: rest).map Segment.text) =
      s.text ++ '.' :: ['.'].intercalate ((t :: rest).map Segment.text) := by
  simp [List.intercalate]

theorem joined_singleton (s : Segment) : ['.'].intercalate ([s].map Segment.text) = s.text :=
  List.intercalate_singleton

/-- The reader finds the segments one after another. The induction is over the segments. -/
theorem readFrom_joined {segments : List Segment} (hne : segments ≠ []) (index : Nat) :
    readFrom index (['.'].intercalate (segments.map Segment.text)) =
      .ok (segments.map Segment.part) := by
  induction segments generalizing index with
  | nil => exact absurd rfl hne
  | cons s rest ih =>
    cases rest with
    | nil =>
      have hread := (readPart_eq_ok_iff s.part_ne_nil).mpr ⟨s, rfl, (List.append_nil _).symm, rfl⟩
      rw [joined_singleton]
      exact readFrom_last s.part_ne_nil hread
    | cons t rest =>
      have hread := (readPart_eq_ok_iff s.part_ne_nil).mpr
        ⟨s, rfl, joined_cons_cons s t rest, rfl⟩
      rw [readFrom_next s.part_ne_nil hread, ih (List.cons_ne_nil t rest)]
      rfl

/-- What the reader finds are segments. The induction is along the reader. -/
theorem segments_of_readFrom {index : Nat} {cs : List Char} {parts : List (List Char)}
    (h : readFrom index cs = .ok parts) :
    ∃ segments : List Segment, segments ≠ [] ∧
      ['.'].intercalate (segments.map Segment.text) = cs ∧ segments.map Segment.part = parts := by
  fun_induction readFrom index cs generalizing parts with
  | case1 => exact absurd h (by simp)
  | case2 => exact absurd h (by simp)
  | case3 index cs part hpart hread =>
    obtain rfl := Except.ok.inj h
    obtain ⟨s, rfl, rfl, -⟩ := (readPart_eq_ok_iff hpart).mp hread
    exact ⟨[s], List.cons_ne_nil s [], by simp, rfl⟩
  | case4 index cs part c rest hpart hread ih =>
    obtain ⟨more, hmore, rfl⟩ := exists_of_map_eq_ok h
    obtain ⟨s, rfl, rfl, hends⟩ := (readPart_eq_ok_iff hpart).mp hread
    obtain rfl : c = '.' := by simpa [endsPart] using hends
    obtain ⟨segments, hne, rfl, rfl⟩ := ih hmore
    obtain ⟨t, others, rfl⟩ := List.exists_cons_of_ne_nil hne
    exact ⟨s :: t :: others, List.cons_ne_nil _ _, joined_cons_cons s t others, rfl⟩

theorem joined_ne_nil {segments : List Segment} (hne : segments ≠ []) :
    ['.'].intercalate (segments.map Segment.text) ≠ [] := by
  intro hnil
  have hread := readFrom_joined hne 0
  rw [hnil] at hread
  rw [readFrom.eq_def] at hread
  simp [readPart, endsPart] at hread

/-- Segments are found again in what they are joined to. The induction is over both rows; where one
of them ends earlier, its last segment would have to reach into the other's point. -/
theorem segments_eq_of_joined {segments others : List Segment} (hne : segments ≠ [])
    (hothers : others ≠ [])
    (h : ['.'].intercalate (segments.map Segment.text) =
      ['.'].intercalate (others.map Segment.text)) : segments = others := by
  induction segments generalizing others with
  | nil => exact absurd rfl hne
  | cons s rest ih =>
    obtain ⟨s', rest', rfl⟩ := List.exists_cons_of_ne_nil hothers
    cases rest with
    | nil =>
      cases rest' with
      | nil =>
        rw [joined_singleton, joined_singleton, ← List.append_nil s.text,
          ← List.append_nil s'.text] at h
        rw [(Segment.eq_of_append h rfl rfl).1]
      | cons t' rest' =>
        rw [joined_singleton, joined_cons_cons, ← List.append_nil s.text] at h
        exact nomatch (Segment.eq_of_append h rfl rfl).2
    | cons t rest =>
      cases rest' with
      | nil =>
        rw [joined_singleton, joined_cons_cons, ← List.append_nil s'.text] at h
        exact nomatch (Segment.eq_of_append h rfl rfl).2
      | cons t' rest' =>
        rw [joined_cons_cons, joined_cons_cons] at h
        obtain ⟨rfl, hrest⟩ := Segment.eq_of_append h rfl rfl
        rw [ih (List.cons_ne_nil t rest) (List.cons_ne_nil t' rest') (List.cons.inj hrest).2]

/-! ## The grammar -/

theorem read_eq_ok_iff {input : String} {parts : List String} :
    read input = .ok parts ↔ ∃ r : Reading input.toList, r.parts = parts := by
  constructor
  · intro h
    rw [read] at h
    cases hchars : readChars input.toList with
    | error fault =>
      rw [hchars] at h
      exact absurd h (by simp)
    | ok found =>
      rw [hchars] at h
      obtain rfl := Except.ok.inj h
      have hinput : input.toList ≠ [] := by
        intro hnil
        rw [hnil] at hchars
        exact absurd hchars (by simp [readChars])
      rw [readChars_of_ne_nil hinput] at hchars
      obtain ⟨segments, hne, hjoined, rfl⟩ := segments_of_readFrom hchars
      exact ⟨⟨segments, hne, hjoined⟩, by simp [Reading.parts]⟩
  · rintro ⟨⟨segments, hne, hjoined⟩, rfl⟩
    have hinput : input.toList ≠ [] := by
      rw [← hjoined]
      exact joined_ne_nil hne
    have hread := readFrom_joined hne 0
    rw [hjoined] at hread
    rw [read, readChars_of_ne_nil hinput, hread]
    simp [Reading.parts]

/-- **The reader of dotted names accepts its grammar and nothing else.**

* It gives the parts of a reading of the text, and gives them whenever there is one.
* It rejects a text exactly when the text has no reading.
* No text has two readings: the segments are known from it, with their bounds and their parts. -/
theorem read_exact :
    (∀ (input : String) (parts : List String),
      read input = .ok parts ↔ ∃ r : Reading input.toList, r.parts = parts) ∧
    (∀ input : String, (∃ e, read input = .error e) ↔ ¬ Nonempty (Reading input.toList)) ∧
    ∀ text : List Char, Subsingleton (Reading text) := by
  refine ⟨fun input parts => read_eq_ok_iff, fun input => ?_, fun text => ⟨fun r r' => ?_⟩⟩
  · constructor
    · rintro ⟨e, he⟩ ⟨r⟩
      exact nomatch he.symm.trans (read_eq_ok_iff.mpr ⟨r, rfl⟩)
    · intro hnone
      cases h : read input with
      | error e => exact ⟨e, rfl⟩
      | ok parts =>
        obtain ⟨r, -⟩ := read_eq_ok_iff.mp h
        exact absurd ⟨r⟩ hnone
  · obtain ⟨segments, hne, hjoined⟩ := r
    obtain ⟨others, hothers, hjoined'⟩ := r'
    obtain rfl := segments_eq_of_joined hne hothers (hjoined.trans hjoined'.symm)
    rfl

end WarehouseAdmin.Parts
