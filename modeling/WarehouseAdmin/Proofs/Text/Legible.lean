import WarehouseAdmin.Proofs.Text.Delimited

/-!
# Statements that can be read back segment by segment

A statement is a row of segments, each with a blank before it. A segment begins with its *lead*, which
settles what it is about, and goes on with a value; and many segments may be missing. A reader who
comes to the place of a segment has to decide from the characters in front of him whether it is there.
He can, if no segment that may come instead has a lead that goes on like this one, or the other way
round; `isPredictive` is this condition, for a list of headings.

`Legible` is a relation of two texts that are written under the same headings, and of a proposition
about what was written. From each segment it can be told where it ends, and two segments are the same
exactly if what was written in them is. The theorem is that this carries over from the segments to the
whole (`Legible.read`, `Legible.eq_iff`): where two texts are the same, the reader goes through both
of them in step.
-/

set_option autoImplicit false

namespace WarehouseAdmin.Text

/-- What is known of a segment beforehand: how it begins, and whether it may be missing. -/
structure Heading where
  lead : String
  isOptional : Bool := true
deriving DecidableEq, Repr

namespace Heading

/-- The segment is missing, or it is a blank, the lead and a value. -/
def Opens (h : Heading) (s : List Char) : Prop :=
  (h.isOptional = true ∧ s = []) ∨ ∃ value, s = ' ' :: (h.lead.toList ++ value)

/-- Says whether neither lead begins with the other one. -/
def differs (h k : Heading) : Bool :=
  !h.lead.toList.isPrefixOf k.lead.toList && !k.lead.toList.isPrefixOf h.lead.toList

/-- Says whether the lead is told from those of all headings that can come next. -/
def isAhead (h : Heading) : List Heading → Bool
  | [] => true
  | k :: rest => h.differs k && (!k.isOptional || h.isAhead rest)

end Heading

/-- Says whether a reader can tell which segments are missing. -/
def isPredictive : List Heading → Bool
  | [] => true
  | h :: rest => (!h.isOptional || h.isAhead rest) && isPredictive rest

/-- Says whether a row of segments can end before these characters. -/
def isClosing : List Char → Bool
  | [] => true
  | c :: _ => c == ')'

theorem isTail_of_isClosing {r : List Char} (h : isClosing r = true) : isTail r = true := by
  cases r with
  | nil => rfl
  | cons c cs => simp_all [isClosing, isTail]

/-! ## A row of segments -/

/-- The text is a row of segments with these headings. -/
inductive Opened : List Heading → List Char → Prop where
  | nil : Opened [] []
  | cons {h : Heading} {hs : List Heading} {s t : List Char} (hopen : h.Opens s)
      (hrest : Opened hs t) : Opened (h :: hs) (s ++ t)

namespace Opened

variable {hs : List Heading} {s r : List Char}

/-- A value can end before a row of segments. -/
theorem isTail (h : Opened hs s) (hr : isClosing r = true) : Text.isTail (s ++ r) = true := by
  induction h with
  | nil => exact isTail_of_isClosing hr
  | @cons h hs s t hopen _ ih =>
    rcases hopen with ⟨-, rfl⟩ | ⟨value, rfl⟩
    · exact ih
    · rfl

/-- A row of segments begins with a blank, if it is not empty. -/
theorem head_eq (h : Opened hs s) {c : Char} {cs : List Char} (hcs : s = c :: cs) : c = ' ' := by
  induction h with
  | nil => exact nomatch hcs
  | @cons h hs s t hopen _ ih =>
    rcases hopen with ⟨-, rfl⟩ | ⟨value, rfl⟩
    · exact ih hcs
    · exact (List.cons.inj hcs).1.symm

/-- No row of segments begins with a lead that is ahead of it. -/
theorem ne_of_isAhead (h : Opened hs s) (hr : isClosing r = true) {k : Heading}
    (hk : k.isAhead hs = true) (value : List Char) : s ++ r ≠ ' ' :: (k.lead.toList ++ value) := by
  induction h with
  | nil =>
    rintro rfl
    exact nomatch hr
  | @cons h hs s t hopen _ ih =>
    rw [Heading.isAhead, Bool.and_eq_true, Bool.or_eq_true] at hk
    obtain ⟨hdiffers, hlater⟩ := hk
    rcases hopen with ⟨hoptional, rfl⟩ | ⟨value', rfl⟩
    · rw [hoptional] at hlater
      exact ih (by simpa using hlater)
    · intro heq
      simp only [List.cons_append, List.append_assoc] at heq
      have hlists := (List.cons.inj heq).2
      -- Of two leads at the same place one begins with the other.
      have hleft : h.lead.toList <+: k.lead.toList ++ value := ⟨_, hlists⟩
      rw [Heading.differs, Bool.and_eq_true, Bool.not_eq_true', Bool.not_eq_true'] at hdiffers
      rcases List.prefix_or_prefix_of_prefix hleft (List.prefix_append _ _) with hprefix | hprefix
      · exact absurd ((List.isPrefixOf_iff_prefix.mpr hprefix).symm.trans hdiffers.2) (by simp)
      · exact absurd ((List.isPrefixOf_iff_prefix.mpr hprefix).symm.trans hdiffers.1) (by simp)

end Opened

/-! ## Two rows of segments -/

/-- Two segments with this heading. If both are there, it can be told where they end; and they are the
same exactly if `P` holds. -/
structure Tells (h : Heading) (s s' : List Char) (P : Prop) : Prop where
  left : h.Opens s
  right : h.Opens s'
  ends : s ≠ [] → s' ≠ [] → ∀ r r', isTail r = true → isTail r' = true → s ++ r = s' ++ r' → s = s'
  same : s = s' ↔ P

/-- Two rows of segments with these headings, the same exactly if `P` holds. -/
inductive Legible : List Heading → List Char → List Char → Prop → Prop where
  | nil : Legible [] [] [] True
  | cons {h : Heading} {hs : List Heading} {s s' t t' : List Char} {P Q : Prop}
      (hfirst : Tells h s s' P) (hrest : Legible hs t t' Q) :
      Legible (h :: hs) (s ++ t) (s' ++ t') (P ∧ Q)

namespace Legible

variable {hs ks : List Heading} {s s' t t' r r' : List Char} {P Q : Prop}

theorem congr (h : Legible hs s s' P) (hPQ : P ↔ Q) : Legible hs s s' Q := by
  rw [← propext hPQ]
  exact h

theorem of_tells {h : Heading} (ht : Tells h s s' P) : Legible [h] s s' P := by
  have hcons := Legible.cons ht .nil
  rw [List.append_nil, List.append_nil] at hcons
  exact hcons.congr (and_iff_left trivial)

theorem append (h : Legible hs s s' P) (h' : Legible ks t t' Q) :
    Legible (hs ++ ks) (s ++ t) (s' ++ t') (P ∧ Q) := by
  induction h with
  | nil => exact h'.congr (and_iff_right trivial).symm
  | cons hfirst _ ih =>
    rw [List.append_assoc, List.append_assoc]
    exact (Legible.cons hfirst ih).congr and_assoc.symm

theorem left (h : Legible hs s s' P) : Opened hs s := by
  induction h with
  | nil => exact .nil
  | cons hfirst _ ih => exact .cons hfirst.left ih

theorem right (h : Legible hs s s' P) : Opened hs s' := by
  induction h with
  | nil => exact .nil
  | cons hfirst _ ih => exact .cons hfirst.right ih

theorem eq_of (h : Legible hs s s' P) (hP : P) : s = s' := by
  induction h with
  | nil => rfl
  | cons hfirst _ ih => rw [hfirst.same.mpr hP.1, ih hP.2]

/-- **Two rows of segments are read in step.** The induction is over the segments. If one of them is in
the one text and not in the other, then the other goes on with its lead all the same, and cannot. -/
theorem read (h : Legible hs s s' P) (hpredict : isPredictive hs = true) (hr : isClosing r = true)
    (hr' : isClosing r' = true) (heq : s ++ r = s' ++ r') : P ∧ r = r' := by
  induction h with
  | nil => exact ⟨trivial, heq⟩
  | @cons h hs s s' t t' P Q hfirst hrest ih =>
    rw [isPredictive, Bool.and_eq_true, Bool.or_eq_true, Bool.not_eq_true'] at hpredict
    obtain ⟨hahead, hlater⟩ := hpredict
    have htold : s = s' := by
      rw [List.append_assoc, List.append_assoc] at heq
      rcases hfirst.left with ⟨hoptional, rfl⟩ | ⟨value, hs⟩
      · rcases hfirst.right with ⟨-, rfl⟩ | ⟨value', rfl⟩
        · rfl
        · have hk := hahead.resolve_left (by simp [hoptional])
          rw [List.nil_append, List.cons_append, List.append_assoc] at heq
          exact absurd heq (hrest.left.ne_of_isAhead hr hk _)
      · rcases hfirst.right with ⟨hoptional, rfl⟩ | ⟨value', hs'⟩
        · have hk := hahead.resolve_left (by simp [hoptional])
          rw [hs, List.nil_append, List.cons_append, List.append_assoc] at heq
          exact absurd heq.symm (hrest.right.ne_of_isAhead hr' hk _)
        · exact hfirst.ends (by simp [hs]) (by simp [hs']) _ _ (hrest.left.isTail hr)
            (hrest.right.isTail hr') heq
    rw [htold, List.append_assoc, List.append_assoc] at heq
    obtain ⟨hQ, htail⟩ := ih hlater (List.append_cancel_left heq)
    exact ⟨⟨hfirst.same.mp htold, hQ⟩, htail⟩

/-- **Two texts are the same exactly if what was written in them is.** -/
theorem eq_iff (h : Legible hs s s' P) (hpredict : isPredictive hs = true) : s = s' ↔ P := by
  refine ⟨fun heq => ?_, h.eq_of⟩
  have hrows : s ++ [] = s' ++ [] := by rw [heq]
  exact (h.read hpredict rfl rfl hrows).1

end Legible

/-! ## Segments that hold one value -/

/-- The segment of a value: nothing if there is none, else a blank, the lead and the value. -/
def written {α : Type} (lead : String) (write : α → String) : Option α → List Char
  | none => []
  | some a => ' ' :: (lead.toList ++ (write a).toList)

section
variable {α : Type} {write : α → String} {lead : String}

theorem legible_written (hwrite : Delimited write) (o o' : Option α) :
    Legible [⟨lead, true⟩] (written lead write o) (written lead write o') (o = o') := by
  have hopens : ∀ o, Heading.Opens ⟨lead, true⟩ (written lead write o) := by
    intro o
    cases o with
    | none => exact .inl ⟨rfl, rfl⟩
    | some a => exact .inr ⟨_, rfl⟩
  refine .of_tells ⟨hopens o, hopens o', ?_, ?_⟩
  · intro hne hne' r r' hr hr' heq
    cases o with
    | none => exact absurd rfl hne
    | some a =>
      cases o' with
      | none => exact absurd rfl hne'
      | some b =>
        simp only [written, List.cons_append, List.append_assoc] at heq
        rw [hwrite a b r r' hr hr' (List.append_cancel_left (List.cons.inj heq).2)]
  · constructor
    · intro heq
      cases o with
      | none =>
        cases o' with
        | none => rfl
        | some b => exact nomatch heq
      | some a =>
        cases o' with
        | none => exact nomatch heq
        | some b =>
          have htexts := List.append_cancel_left (List.cons.inj heq).2
          rw [hwrite.injective (String.toList_inj.mp htexts)]
    · rintro rfl
      rfl

/-- A segment that is never missing. -/
theorem legible_required (hwrite : Delimited write) {s s' : List Char} {a b : α}
    (hs : s = ' ' :: (write a).toList) (hs' : s' = ' ' :: (write b).toList)
    (hlead : ∀ a, lead.toList <+: (write a).toList) : Legible [⟨lead, false⟩] s s' (a = b) := by
  obtain ⟨value, hvalue⟩ := hlead a
  obtain ⟨value', hvalue'⟩ := hlead b
  refine .of_tells ⟨.inr ⟨value, by rw [hs, hvalue]⟩, .inr ⟨value', by rw [hs', hvalue']⟩, ?_, ?_⟩
  · intro _ _ r r' hr hr' heq
    rw [hs, hs', List.cons_append, List.cons_append] at heq
    rw [hs, hs', hwrite a b r r' hr hr' (List.cons.inj heq).2]
  · rw [hs, hs']
    constructor
    · intro heq
      exact hwrite.injective (String.toList_inj.mp (List.cons.inj heq).2)
    · rintro rfl
      rfl

/-- A segment that is always the same. -/
theorem legible_fixed (lead : String) :
    Legible [⟨lead, false⟩] (' ' :: lead.toList) (' ' :: lead.toList) True :=
  .of_tells ⟨.inr ⟨[], by rw [List.append_nil]⟩, .inr ⟨[], by rw [List.append_nil]⟩,
    fun _ _ _ _ _ _ _ => rfl, iff_of_true rfl trivial⟩

end

/-! ## Segments that hold segments -/

/-- The segment of a row of segments: they stand in parentheses, without the blank before the first. -/
def grouped (lead : String) : List Char → List Char
  | [] => []
  | _ :: s => ' ' :: (lead.toList ++ (' ' :: '(' :: (s ++ [')'])))

section
variable {hs : List Heading} {s s' r r' : List Char} {P : Prop} {lead : String}

theorem grouped_eq_nil_iff : grouped lead s = [] ↔ s = [] := by
  cases s with
  | nil => exact iff_of_true rfl rfl
  | cons c s => exact iff_of_false nofun nofun

theorem opens_grouped (lead : String) (s : List Char) :
    Heading.Opens ⟨lead, true⟩ (grouped lead s) := by
  cases s with
  | nil => exact .inl ⟨rfl, rfl⟩
  | cons c s => exact .inr ⟨_, rfl⟩

/-- The parenthesis behind a row of segments shows where the row ends. -/
theorem eq_of_grouped_append (h : Legible hs s s' P) (hpredict : isPredictive hs = true)
    (hne : s ≠ []) (hne' : s' ≠ []) (heq : grouped lead s ++ r = grouped lead s' ++ r') : s = s' := by
  obtain ⟨c, cs, hs⟩ := List.exists_cons_of_ne_nil hne
  obtain ⟨c', cs', hs'⟩ := List.exists_cons_of_ne_nil hne'
  rw [hs, hs'] at heq
  simp only [grouped, List.cons_append, List.append_assoc, List.nil_append] at heq
  have hinside := (List.cons.inj (List.cons.inj (List.append_cancel_left (List.cons.inj heq).2)).2).2
  have hrows : s ++ ')' :: r = s' ++ ')' :: r' := by
    rw [hs, hs', h.left.head_eq hs, h.right.head_eq hs', List.cons_append, List.cons_append, hinside]
  exact h.eq_of (h.read hpredict rfl rfl hrows).1

/-- **A row of segments in parentheses** is a segment that can be read back. -/
theorem legible_grouped (h : Legible hs s s' P) (hpredict : isPredictive hs = true) (lead : String) :
    Legible [⟨lead, true⟩] (grouped lead s) (grouped lead s') P := by
  refine .of_tells ⟨opens_grouped lead s, opens_grouped lead s', ?_, ?_⟩
  · intro hne hne' r r' _ _ heq
    rw [Ne, grouped_eq_nil_iff] at hne hne'
    rw [eq_of_grouped_append h hpredict hne hne' heq]
  · rw [← h.eq_iff hpredict]
    refine ⟨fun heq => ?_, fun heq => by rw [heq]⟩
    by_cases hnil : s = []
    · have hnil' : grouped lead s' = [] := by rw [← heq, grouped_eq_nil_iff, hnil]
      rw [hnil, grouped_eq_nil_iff.mp hnil']
    · have hne' : s' ≠ [] := by rwa [Ne, ← grouped_eq_nil_iff, ← heq, grouped_eq_nil_iff]
      have hrows : grouped lead s ++ [] = grouped lead s' ++ [] := by rw [heq]
      exact eq_of_grouped_append h hpredict hnil hne' hrows

end

end WarehouseAdmin.Text
