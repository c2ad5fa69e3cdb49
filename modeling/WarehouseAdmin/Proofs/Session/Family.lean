import Mathlib.Data.Fin.Tuple.Basic
import Mathlib.Logic.Relation
import WarehouseAdmin.Proofs.Session.Waiting

/-!
# Families of contexts

Contexts are made from nothing, as copies or as children, and they are cancelled, while the clock
goes on. A `History` is this in any order. It says of each context how it was made (`origin`), which
calls cancelled what (`cancelled`), and which deadlines were asked for on the way from the first
context to this one (`requested`). Nothing of that mentions tokens.

Tokens and deadlines are handed on differently. A deadline is copied as it is at that moment, into
copies and children alike. A token stays one token in all copies, and a child keeps a list of those
above it; so a cancellation is seen by copies and children whenever they were made.

`IsSound` is what this comes down to in the contexts themselves, and each step of a history keeps it
(`IsSound.make`). From there, contexts with one token are those that copying relates
(`sharesToken_iff`), and the tokens above a context are those of its ancestors (`isAncestor_iff`).
-/

set_option autoImplicit false

namespace WarehouseAdmin

/-! ## Histories -/

/-- What sets a copy of a context apart from it. -/
inductive Change where
  | nothing
  | timeout (ms : Nat)
  | deadline (time : Nat)
  | locator (locator : String)
deriving DecidableEq, Repr

/-- How a context is made, where there are `n` others. -/
inductive Origin (n : Nat) where
  | new
  | copy (source : Fin n) (change : Change)
  | child (source : Fin n)
deriving DecidableEq, Repr

/-- What is done to contexts, one thing after the other, with `n` contexts in the end. -/
inductive History : Nat → Type where
  | start (now : Nat) : History 0
  | make {n : Nat} (h : History n) (origin : Origin n) : History (n + 1)
  | cancel {n : Nat} (h : History n) (target : Fin n) : History n
  | wait {n : Nat} (h : History n) (ms : Nat) : History n
deriving Repr

/-- A session, and the contexts that were made in it. -/
structure Family (n : Nat) where
  session : Session
  context : Fin n → Context

namespace Change

def apply (s : Session) (ctx : Context) : Change → Context
  | nothing => ctx
  | timeout ms => s.withTimeout ctx ms
  | deadline time => ctx.withDeadline time
  | locator name => ctx.withLocator name

/-- The deadline that is asked for, if there is one. -/
def requested (now : Nat) : Change → List Nat
  | timeout ms => [now + ms]
  | deadline time => [time]
  | nothing | locator _ => []

end Change

namespace Origin

variable {n : Nat}

/-- The same, where one more context was made since. -/
def castSucc : Origin n → Origin (n + 1)
  | new => new
  | copy source change => copy source.castSucc change
  | child source => child source.castSucc

/-- The context that is copied. -/
def copied? : Origin n → Option (Fin n)
  | copy source _ => some source
  | new | child _ => none

/-- The context that gets a child. -/
def parent? : Origin n → Option (Fin n)
  | child source => some source
  | new | copy .. => none

/-- The context from which another is made. -/
def source? : Origin n → Option (Fin n)
  | copy source _ | child source => some source
  | new => none

/-- The context that is made, and the session behind that. -/
def make (f : Family n) : Origin n → Context × Session
  | new => f.session.newContext
  | copy source change => (change.apply f.session (f.context source), f.session)
  | child source => f.session.childOf (f.context source)

/-- The deadlines that are asked for on the way, the last one first. -/
def requested (now : Nat) (earlier : Fin n → List Nat) : Origin n → List Nat
  | new => []
  | copy source change => change.requested now ++ earlier source
  | child source => earlier source

end Origin

namespace History

/-- What comes of a history. -/
def run : {n : Nat} → History n → Family n
  | _, start now => ⟨{ now }, Fin.elim0⟩
  | _, make h origin =>
    let (ctx, session) := origin.make h.run
    ⟨session, Fin.snoc h.run.context ctx⟩
  | _, cancel h target => { h.run with session := h.run.session.cancel (h.run.context target) }
  | _, wait h ms => { h.run with session := h.run.session.advance ms }

/-- How each of the contexts was made. -/
def origin : {n : Nat} → History n → Fin n → Origin n
  | _, start _ => Fin.elim0
  | _, make h o => Fin.snoc (fun i => (h.origin i).castSucc) o.castSucc
  | _, cancel h _ | _, wait h _ => h.origin

/-- The contexts that were cancelled, once for each call. -/
def cancelled : {n : Nat} → History n → List (Fin n)
  | _, start _ => []
  | _, make h _ => h.cancelled.map Fin.castSucc
  | _, cancel h target => h.cancelled ++ [target]
  | _, wait h _ => h.cancelled

/-- The deadlines that were asked for on the way to each context, the last one first. -/
def requested : {n : Nat} → History n → Fin n → List Nat
  | _, start _ => Fin.elim0
  | _, make h o => Fin.snoc h.requested (o.requested h.run.session.now h.requested)
  | _, cancel h _ | _, wait h _ => h.requested

section
variable {n : Nat} (h : History n)

abbrev session : Session := h.run.session

abbrev context : Fin n → Context := h.run.context

def isCancelled (i : Fin n) : Bool := h.session.isCancelled (h.context i)

/-- One was copied from the other, directly or through further copies, or both from a third. -/
def SharesToken : Fin n → Fin n → Prop :=
  Relation.EqvGen fun i j => (h.origin j).copied? = some i

/-- The second, or a context that shares its token, is a child of the first, or of one that shares the
token of the first. -/
def IsParent (i j : Fin n) : Prop :=
  ∃ p c, h.SharesToken i p ∧ (h.origin c).parent? = some p ∧ h.SharesToken c j

def IsAncestor : Fin n → Fin n → Prop := Relation.TransGen h.IsParent

/-- Two children of one context. -/
def IsSibling (i j : Fin n) : Prop :=
  ¬ h.SharesToken i j ∧ ∃ p, h.IsParent p i ∧ h.IsParent p j

end

section
variable {n : Nat} (h : History n) (o : Origin n) (i : Fin n)

@[simp] theorem origin_last : (h.make o).origin (Fin.last n) = o.castSucc := by simp [origin]

@[simp] theorem origin_castSucc : (h.make o).origin i.castSucc = (h.origin i).castSucc := by
  simp [origin]

@[simp] theorem session_make : (h.make o).session = (o.make h.run).2 := rfl

@[simp] theorem context_last : (h.make o).context (Fin.last n) = (o.make h.run).1 := by
  simp [context, run]

@[simp] theorem context_castSucc : (h.make o).context i.castSucc = h.context i := by
  simp [context, run]

@[simp] theorem requested_last : (h.make o).requested (Fin.last n) =
    o.requested h.session.now h.requested := by
  simp [requested]

@[simp] theorem requested_castSucc : (h.make o).requested i.castSucc = h.requested i := by
  simp [requested]

end

end History

namespace Origin

variable {n : Nat} (o : Origin n)

@[simp] theorem copied?_castSucc : o.castSucc.copied? = o.copied?.map Fin.castSucc := by
  cases o <;> rfl

@[simp] theorem source?_castSucc : o.castSucc.source? = o.source?.map Fin.castSucc := by
  cases o <;> rfl

variable {o} {source : Fin n}

theorem exists_of_copied? (h : o.copied? = some source) : ∃ change, o = copy source change := by
  cases o with
  | new => exact nomatch h
  | copy s change => exact ⟨change, congrArg (copy · change) (Option.some.inj h)⟩
  | child s => exact nomatch h

theorem eq_of_parent? (h : o.parent? = some source) : o = child source := by
  cases o with
  | new => exact nomatch h
  | copy s change => exact nomatch h
  | child s => exact congrArg child (Option.some.inj h)

/-- How a context fits the way it was made. -/
def Fits (contexts : Fin n → Context) (ctx : Context) : Origin n → Prop
  | new => ctx.above = []
  | copy source _ => ctx.token = (contexts source).token ∧ ctx.above = (contexts source).above
  | child source => ctx.above = (contexts source).tokens

end Origin

/-! ## What each step keeps -/

/-- Where nobody is going to cancel anything, the clock does not matter. -/
theorem Session.isCancelled_iff_of_past {s : Session} {ctx : Context}
    (hpast : ∀ c ∈ s.cancellations, c.2 ≤ s.now) :
    s.isCancelled ctx = true ↔ ∃ t ∈ s.cancellations.map Prod.fst, t ∈ ctx.tokens := by
  rw [isCancelled_iff]
  constructor
  · rintro ⟨time, htime, -⟩
    obtain ⟨c, hc, -⟩ := List.mem_map.mp htime
    obtain ⟨hmem, htoken⟩ := List.mem_filter.mp hc
    exact ⟨c.1, List.mem_map_of_mem hmem, List.contains_iff_mem.mp htoken⟩
  · rintro ⟨t, ht, htoken⟩
    obtain ⟨c, hc, rfl⟩ := List.mem_map.mp ht
    have hfilter : c ∈ s.cancellations.filter fun c => ctx.tokens.contains c.1 :=
      List.mem_filter.mpr ⟨hc, List.contains_iff_mem.mpr htoken⟩
    exact ⟨c.2, List.mem_map_of_mem hfilter, hpast c hc⟩

namespace Change

variable (c : Change) (s : Session) (ctx : Context)

@[simp] theorem token_apply : (c.apply s ctx).token = ctx.token := by cases c <;> rfl

@[simp] theorem above_apply : (c.apply s ctx).above = ctx.above := by cases c <;> rfl

theorem deadline_apply {times : List Nat} (h : ctx.deadline = times.min?) :
    (c.apply s ctx).deadline = (c.requested s.now ++ times).min? := by
  have hwith (time : Nat) : (ctx.withDeadline time).deadline = (time :: times).min? := by
    rw [Context.withDeadline, h, List.min?_cons]
    cases times.min? with
    | none => rfl
    | some d => exact congrArg some (Nat.min_comm d time)
  cases c with
  | nothing => exact h
  | timeout ms => exact hwith (s.now + ms)
  | deadline time => exact hwith time
  | locator name => exact h

end Change

namespace History

section
variable {n : Nat} {h : History n}

/-- What holds of the tokens of all contexts at any time. -/
structure IsSound (h : History n) : Prop where
  source_lt : ∀ i source, (h.origin i).source? = some source → source < i
  fits : ∀ i, (h.origin i).Fits h.context (h.context i)
  token_lt : ∀ i, (h.context i).token < h.session.nextToken
  above_lt : ∀ i, ∀ t ∈ (h.context i).above, t < (h.context i).token
  /-- No two contexts have a token of their own, and the same one. -/
  founder_unique : ∀ i j, (h.origin i).copied? = none → (h.origin j).copied? = none →
    (h.context i).token = (h.context j).token → i = j

theorem IsSound.tokens_lt (hs : h.IsSound) (i : Fin n) :
    ∀ t ∈ (h.context i).tokens, t < h.session.nextToken := by
  intro t ht
  rcases List.mem_cons.mp ht with rfl | ht
  · exact hs.token_lt i
  · exact Nat.lt_trans (hs.above_lt i t ht) (hs.token_lt i)

/-- The context that is made next. -/
theorem IsSound.made (hs : h.IsSound) (o : Origin n) :
    o.Fits h.context (o.make h.run).1 ∧
    (o.make h.run).1.token < (o.make h.run).2.nextToken ∧
    (∀ t ∈ (o.make h.run).1.above, t < (o.make h.run).1.token) ∧
    (o.copied? = none → (o.make h.run).1.token = h.session.nextToken) ∧
    h.session.nextToken ≤ (o.make h.run).2.nextToken := by
  cases o with
  | new => exact ⟨rfl, Nat.lt_succ_self _, nofun, fun _ => rfl, Nat.le_succ _⟩
  | copy source change =>
    refine ⟨⟨change.token_apply _ _, change.above_apply _ _⟩, ?_, ?_, nofun, Nat.le_refl _⟩
    · simpa [Origin.make] using hs.token_lt source
    · simpa [Origin.make] using hs.above_lt source
  | child source =>
    exact ⟨rfl, Nat.lt_succ_self _, hs.tokens_lt source, fun _ => rfl, Nat.le_succ _⟩

/-- One more context changes nothing for those that are there. -/
theorem fits_make {ctx : Context} {p : Origin n} (o : Origin n) (hp : p.Fits h.context ctx) :
    p.castSucc.Fits (h.make o).context ctx := by
  cases p with
  | new => exact hp
  | copy source change => simpa [Origin.Fits, Origin.castSucc] using hp
  | child source => simpa [Origin.Fits, Origin.castSucc] using hp

theorem IsSound.make (hs : h.IsSound) (o : Origin n) : (h.make o).IsSound := by
  obtain ⟨hfits, htoken, habove, hfresh, hnext⟩ := hs.made o
  constructor
  case source_lt =>
    intro i source hsource
    induction i using Fin.lastCases with
    | last =>
      obtain ⟨j, -, rfl⟩ : ∃ j, o.source? = some j ∧ j.castSucc = source := by simpa using hsource
      exact Fin.castSucc_lt_last j
    | cast i =>
      obtain ⟨j, hj, rfl⟩ : ∃ j, (h.origin i).source? = some j ∧ j.castSucc = source := by
        simpa using hsource
      exact Fin.castSucc_lt_castSucc_iff.mpr (hs.source_lt i j hj)
  case fits =>
    intro i
    induction i using Fin.lastCases with
    | last => simpa using fits_make o hfits
    | cast i => simpa using fits_make o (hs.fits i)
  case token_lt =>
    intro i
    induction i using Fin.lastCases with
    | last => simpa using htoken
    | cast i => simpa using Nat.lt_of_lt_of_le (hs.token_lt i) hnext
  case above_lt =>
    intro i
    induction i using Fin.lastCases with
    | last => simpa using habove
    | cast i => simpa using hs.above_lt i
  case founder_unique =>
    have hne (ho : o.copied? = none) (i : Fin n) :
        (h.context i).token ≠ (o.make h.run).1.token :=
      Nat.ne_of_lt (Nat.lt_of_lt_of_eq (hs.token_lt i) (hfresh ho).symm)
    intro i j hi hj heq
    induction i using Fin.lastCases with
    | last =>
      induction j using Fin.lastCases with
      | last => rfl
      | cast j => exact absurd (by simpa using heq.symm) (hne (by simpa using hi) j)
    | cast i =>
      induction j using Fin.lastCases with
      | last => exact absurd (by simpa using heq) (hne (by simpa using hj) i)
      | cast j =>
        rw [hs.founder_unique i j (by simpa using hi) (by simpa using hj) (by simpa using heq)]

/-- **Every step of a history keeps what holds of the tokens.** -/
theorem isSound (h : History n) : h.IsSound := by
  induction h with
  | start now => exact ⟨nofun, nofun, nofun, nofun, nofun⟩
  | make h o ih => exact ih.make o
  | cancel h target ih => exact ⟨ih.source_lt, ih.fits, ih.token_lt, ih.above_lt, ih.founder_unique⟩
  | wait h ms ih => exact ⟨ih.source_lt, ih.fits, ih.token_lt, ih.above_lt, ih.founder_unique⟩

end

/-! ## Shared tokens -/

section
variable {n : Nat} (h : History n) {i j a : Fin n}

/-- Each context shares its token with one that is not a copy. -/
theorem exists_founder (i : Fin n) : ∃ f, (h.origin f).copied? = none ∧ h.SharesToken f i := by
  induction i using WellFoundedLT.induction with
  | ind i ih =>
    -- Sources are made before what is made from them, so going from copy to source comes to an end.
    cases horigin : h.origin i with
    | new => exact ⟨i, by rw [horigin]; rfl, .refl i⟩
    | child source => exact ⟨i, by rw [horigin]; rfl, .refl i⟩
    | copy source change =>
      obtain ⟨f, hf, hshares⟩ := ih source (h.isSound.source_lt i source (by rw [horigin]; rfl))
      exact ⟨f, hf, .trans f source i hshares (.rel source i (by rw [horigin]; rfl))⟩

theorem tokens_eq_of_copied (hcopied : (h.origin j).copied? = some i) :
    (h.context i).tokens = (h.context j).tokens := by
  obtain ⟨change, horigin⟩ := Origin.exists_of_copied? hcopied
  have hfits := h.isSound.fits j
  rw [horigin] at hfits
  rw [Context.tokens, Context.tokens, hfits.1, hfits.2]

variable {h} in
/-- Contexts that share a token also have the same tokens above. -/
theorem SharesToken.tokens_eq (hshares : h.SharesToken i j) :
    (h.context i).tokens = (h.context j).tokens := by
  induction hshares with
  | rel i j hcopied => exact h.tokens_eq_of_copied hcopied
  | refl i => rfl
  | symm i j _ ih => exact ih.symm
  | trans i j k _ _ ih₁ ih₂ => exact ih₁.trans ih₂

/-- **Copying is the only way to a token that is there already.** -/
theorem sharesToken_iff : h.SharesToken i j ↔ (h.context i).token = (h.context j).token := by
  constructor
  · intro hshares
    exact (List.cons.inj hshares.tokens_eq).1
  · intro heq
    obtain ⟨f, hf, hfi⟩ := h.exists_founder i
    obtain ⟨g, hg, hgj⟩ := h.exists_founder j
    -- The two that are not copies have that token as well, and so they are one.
    have hfg : (h.context f).token = (h.context g).token :=
      calc (h.context f).token = (h.context i).token := (List.cons.inj hfi.tokens_eq).1
        _ = (h.context j).token := heq
        _ = (h.context g).token := (List.cons.inj hgj.tokens_eq).1.symm
    obtain rfl := h.isSound.founder_unique f g hf hg hfg
    exact .trans i f j (.symm f i hfi) hgj

/-! ## Ancestors -/

theorem above_eq_of_isParent (hparent : h.IsParent i j) :
    (h.context j).above = (h.context i).tokens := by
  obtain ⟨p, c, hip, hchild, hcj⟩ := hparent
  have hfits := h.isSound.fits c
  rw [Origin.eq_of_parent? hchild] at hfits
  calc (h.context j).above = (h.context c).above := (List.cons.inj hcj.tokens_eq).2.symm
    _ = (h.context p).tokens := hfits
    _ = (h.context i).tokens := hip.tokens_eq.symm

variable {h} in
theorem IsAncestor.of_sharesToken (hancestor : h.IsAncestor a i) (hshares : h.SharesToken i j) :
    h.IsAncestor a j := by
  have hright {p : Fin n} : h.IsParent p i → h.IsParent p j := by
    rintro ⟨q, c, hpq, hchild, hci⟩
    exact ⟨q, c, hpq, hchild, .trans c i j hci hshares⟩
  cases hancestor with
  | single hparent => exact .single (hright hparent)
  | tail hline hparent => exact .tail hline (hright hparent)

variable {h} in
theorem IsAncestor.mem_above (hancestor : h.IsAncestor a i) :
    (h.context a).token ∈ (h.context i).above := by
  induction hancestor with
  | single hparent =>
    rw [h.above_eq_of_isParent hparent]
    exact List.mem_cons_self
  | tail _ hparent ih =>
    rw [h.above_eq_of_isParent hparent]
    exact List.mem_cons_of_mem _ ih

theorem isAncestor_of_mem_above (hmem : (h.context a).token ∈ (h.context i).above) :
    h.IsAncestor a i := by
  -- The tokens above are the source's own, for a copy, or that of the source and those above it.
  induction i using WellFoundedLT.induction with
  | ind i ih =>
    have hfits := h.isSound.fits i
    have hlt := h.isSound.source_lt i
    cases horigin : h.origin i with
    | new =>
      rw [horigin] at hfits
      rw [show (h.context i).above = [] from hfits] at hmem
      exact nomatch hmem
    | copy source change =>
      rw [horigin] at hfits hlt
      rw [hfits.2] at hmem
      exact (ih source (hlt source rfl) hmem).of_sharesToken (.rel source i (by rw [horigin]; rfl))
    | child source =>
      rw [horigin] at hfits hlt
      rw [show (h.context i).above = (h.context source).tokens from hfits] at hmem
      have hparent (p : Fin n) (hp : h.SharesToken p source) : h.IsParent p i :=
        ⟨source, i, hp, by rw [horigin]; rfl, .refl i⟩
      rcases List.mem_cons.mp hmem with heq | hmem
      · exact .single (hparent a (h.sharesToken_iff.mpr heq))
      · exact .tail (ih source (hlt source rfl) hmem) (hparent source (.refl source))

/-- **The tokens above a context are those of its ancestors.** -/
theorem isAncestor_iff : h.IsAncestor a i ↔ (h.context a).token ∈ (h.context i).above :=
  ⟨IsAncestor.mem_above, h.isAncestor_of_mem_above⟩

theorem mem_tokens_iff : (h.context a).token ∈ (h.context i).tokens ↔
    h.SharesToken a i ∨ h.IsAncestor a i := by
  rw [h.sharesToken_iff, h.isAncestor_iff]
  exact List.mem_cons

/-! ## Cancellations -/

theorem cancellations_eq (h : History n) :
    h.session.cancellations.map Prod.fst = h.cancelled.map fun i => (h.context i).token := by
  induction h with
  | start now => rfl
  | make h o ih =>
    have hsame : (o.make h.run).2.cancellations = h.session.cancellations := by cases o <;> rfl
    rw [session_make, hsame, ih]
    simp [cancelled]
  | cancel h target ih =>
    show (h.session.cancellations ++ [((h.context target).token, _)]).map Prod.fst =
      (h.cancelled ++ [target]).map fun i => (h.context i).token
    rw [List.map_append, List.map_append, ih]
    rfl
  | wait h ms ih => exact ih

theorem le_now_of_mem_cancellations (h : History n) :
    ∀ c ∈ h.session.cancellations, c.2 ≤ h.session.now := by
  induction h with
  | start now => exact nofun
  | make h o ih => cases o <;> exact ih
  | cancel h target ih =>
    intro c hc
    rcases List.mem_append.mp hc with hc | hc
    · exact ih c hc
    · obtain rfl := List.mem_singleton.mp hc
      exact Nat.le_refl _
  | wait h ms ih => exact fun c hc => Nat.le_trans (ih c hc) (Nat.le_add_right _ _)

/-- **A context is cancelled exactly if a call was for it, a copy of it, or an ancestor.** -/
theorem isCancelled_iff : h.isCancelled i = true ↔
    ∃ target ∈ h.cancelled, h.SharesToken target i ∨ h.IsAncestor target i := by
  rw [isCancelled, Session.isCancelled_iff_of_past h.le_now_of_mem_cancellations,
    h.cancellations_eq]
  simp only [List.mem_map, exists_exists_and_eq_and, h.mem_tokens_iff]

theorem isCancelled_cancel : (h.cancel i).isCancelled j = true ↔
    h.isCancelled j = true ∨ h.SharesToken i j ∨ h.IsAncestor i j := by
  rw [h.isCancelled_iff, (h.cancel i).isCancelled_iff]
  show (∃ target ∈ h.cancelled ++ [i], h.SharesToken target j ∨ h.IsAncestor target j) ↔ _
  simp only [List.mem_append, List.mem_singleton, or_and_right, exists_or, exists_eq_left]

/-- A cancellation does not go upwards. -/
theorem token_notMem_of_isAncestor (hancestor : h.IsAncestor a i) :
    (h.context i).token ∉ (h.context a).tokens := by
  have hlt := h.isSound.above_lt i _ (h.isAncestor_iff.mp hancestor)
  intro hmem
  rcases List.mem_cons.mp hmem with heq | hmem
  · exact absurd hlt (Nat.not_lt.mpr (Nat.le_of_eq heq))
  · exact Nat.lt_asymm hlt (h.isSound.above_lt a _ hmem)

/-- A cancellation does not go sideways. -/
theorem token_notMem_of_isSibling (hsibling : h.IsSibling i j) :
    (h.context i).token ∉ (h.context j).tokens := by
  obtain ⟨hne, p, hi, hj⟩ := hsibling
  intro hmem
  rcases List.mem_cons.mp hmem with heq | hmem
  · exact hne (h.sharesToken_iff.mpr heq)
  · rw [h.above_eq_of_isParent hj, ← h.above_eq_of_isParent hi] at hmem
    exact Nat.lt_irrefl _ (h.isSound.above_lt i _ hmem)

theorem isCancelled_cancel_of_notMem (hout : (h.context i).token ∉ (h.context j).tokens) :
    (h.cancel i).isCancelled j = h.isCancelled j := by
  rw [h.mem_tokens_iff] at hout
  rw [Bool.eq_iff_iff, h.isCancelled_cancel]
  exact or_iff_left hout

/-! ## Deadlines -/

/-- **The deadline of a context is the earliest that was asked for on the way to it.** -/
theorem deadline_eq (h : History n) (i : Fin n) :
    (h.context i).deadline = (h.requested i).min? := by
  induction h with
  | start now => exact i.elim0
  | make h o ih =>
    induction i using Fin.lastCases with
    | last =>
      rw [context_last, requested_last]
      cases o with
      | new => rfl
      | copy source change => exact change.deadline_apply _ _ (ih source)
      | child source => exact ih source
    | cast i =>
      rw [context_castSucc, requested_castSucc]
      exact ih i
  | cancel h target ih => exact ih i
  | wait h ms ih => exact ih i

/-- What was asked for on the way to the source is also on the way from there. -/
theorem requested_suffix (h : History n) (i source : Fin n)
    (hsource : (h.origin i).source? = some source) : h.requested source <:+ h.requested i := by
  induction h with
  | start now => exact i.elim0
  | make h o ih =>
    induction i using Fin.lastCases with
    | last =>
      obtain ⟨j, hj, rfl⟩ : ∃ j, o.source? = some j ∧ j.castSucc = source := by simpa using hsource
      rw [requested_last, requested_castSucc]
      cases o with
      | new => exact nomatch hj
      | copy _ change =>
        obtain rfl := Option.some.inj hj
        exact List.suffix_append _ _
      | child _ =>
        obtain rfl := Option.some.inj hj
        exact List.suffix_rfl
    | cast i =>
      obtain ⟨j, hj, rfl⟩ : ∃ j, (h.origin i).source? = some j ∧ j.castSucc = source := by
        simpa using hsource
      rw [requested_castSucc, requested_castSucc]
      exact ih i j hj
  | cancel h target ih => exact ih i source hsource
  | wait h ms ih => exact ih i source hsource

theorem exists_deadline_le {source : Fin n} {d : Nat}
    (hsource : (h.origin i).source? = some source) (hd : (h.context source).deadline = some d) :
    ∃ e ≤ d, (h.context i).deadline = some e := by
  rw [h.deadline_eq] at hd
  have hmem : d ∈ h.requested i := (h.requested_suffix i source hsource).mem (List.min?_mem hd)
  obtain ⟨e, he⟩ := Option.isSome_iff_exists.mp (List.isSome_min?_of_mem hmem)
  exact ⟨e, (List.min?_eq_some_iff.mp he).2 d hmem, (h.deadline_eq i).trans he⟩

/-- **Cancellations and deadlines in a family**, whatever was done to it and in which order. A
context is cancelled exactly if there was a call for a context that shares its token, or for one
above these. So no call reaches the ancestors of its target, or their other children. The deadline is
the earliest of those that were asked for on the way, and so not after that of the context it was
made from. -/
theorem family_exact (h : History n) (i : Fin n) :
    (h.isCancelled i = true ↔
      ∃ target ∈ h.cancelled, h.SharesToken target i ∨ h.IsAncestor target i) ∧
    (∀ j, h.IsAncestor j i ∨ h.IsSibling i j → (h.cancel i).isCancelled j = h.isCancelled j) ∧
    (h.context i).deadline = (h.requested i).min? ∧
    ∀ source, (h.origin i).source? = some source → ∀ d, (h.context source).deadline = some d →
      ∃ e ≤ d, (h.context i).deadline = some e := by
  refine ⟨h.isCancelled_iff, fun j hj => ?_, h.deadline_eq i,
    fun source hsource d hd => h.exists_deadline_le hsource hd⟩
  rcases hj with hancestor | hsibling
  · exact h.isCancelled_cancel_of_notMem (h.token_notMem_of_isAncestor hancestor)
  · exact h.isCancelled_cancel_of_notMem (h.token_notMem_of_isSibling hsibling)

end

/-- A context with a child and a copy that has a deadline, and a child of the copy. -/
def relatives : History 4 :=
  ((((start 0).make .new).make (.child 0)).make (.copy 0 (.timeout 60000))).make (.child 2)

/-- Cancelling the child reaches neither its parent nor the other child; cancelling the copy also
reaches a child that the first context gets only then. -/
theorem family_exact_relatives :
    (relatives.cancel 1).isCancelled 0 = false ∧ (relatives.cancel 1).isCancelled 3 = false ∧
    ((relatives.cancel 2).make (.child 0)).isCancelled 4 = true ∧
    (relatives.context 3).deadline = some 60000 ∧
    ∃ e ≤ 60000, (relatives.context 3).deadline = some e := by
  have hcopy : relatives.SharesToken 0 2 := .rel 0 2 rfl
  have hchild : relatives.IsParent 0 1 := ⟨0, 1, .refl 0, rfl, .refl 1⟩
  have hfirst : relatives.IsParent 2 1 := ⟨0, 1, .symm 0 2 hcopy, rfl, .refl 1⟩
  have hsecond : relatives.IsParent 2 3 := ⟨2, 3, .refl 2, rfl, .refl 3⟩
  have hne : ¬ relatives.SharesToken 1 3 := by
    rw [relatives.sharesToken_iff]
    decide
  obtain ⟨-, hout, -, -⟩ := relatives.family_exact 1
  obtain ⟨-, -, hdeadline, hsource⟩ := relatives.family_exact 3
  have hlater : ((relatives.cancel 2).make (.child 0)).IsParent 2 4 :=
    ⟨0, 4, .symm 0 2 (.rel 0 2 rfl), rfl, .refl 4⟩
  obtain ⟨hcancelled, -, -, -⟩ := ((relatives.cancel 2).make (.child 0)).family_exact 4
  exact ⟨(hout 0 (.inl (.single hchild))).trans (by decide),
    (hout 3 (.inr ⟨hne, 2, hfirst, hsecond⟩)).trans (by decide),
    hcancelled.mpr ⟨2, by decide, .inr (.single hlater)⟩, hdeadline.trans rfl,
    hsource 2 rfl 60000 rfl⟩

end History

end WarehouseAdmin
