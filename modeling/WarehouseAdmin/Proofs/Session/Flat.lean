import WarehouseAdmin.Proofs.Session.Accounts

/-!
# Everything that is reported is flat

Errors are joined at three levels: a check joins what its rules record, a check of a part is recorded
in one error by the check around it, and a safe operation joins what its look-ups fail with to the
error that it explains. At each level joined errors are taken apart by one level only, so at each it
must be known that those below are flat already. Here this is carried through: from the rules to the
check of a request (`conclude_of_ne_nil`), from single statements to the walk through containers
(`isSingle_of_walk`), and from there to whatever a client can be asked for (`errors_flat`).
-/

set_option autoImplicit false

namespace WarehouseAdmin

namespace Client

open Operation

variable {c : Client} {ctx : Context} {α : Type} {s : Session} {e : Error}

/-- What explains a flat error by flat errors is flat. -/
theorem isFlat_explained {w : Walk} (he : e.IsFlat) (hw : ∀ x ∈ w.errors, x.IsFlat) :
    (explained e w).IsFlat := by
  have hall : ∀ x ∈ e :: w.errors, x.IsFlat := List.forall_mem_cons.mpr ⟨he, hw⟩
  unfold explained
  cases hjoin : Error.join (e :: w.errors) with
  | none => exact nomatch (Error.join_eq_none_iff hall).mp hjoin
  | some x => exact (Error.join_eq_some hall hjoin).1

/-- The errors that a walk collects are single ones, one from each look-up that failed. The induction
is over the containers. -/
theorem isSingle_of_walk {id : Identifier} {as : List Ancestor} {w : Walk}
    (h : (c.walk ctx id as s).1 = .done w) : ∀ x ∈ w.errors, x.IsSingle := by
  induction as generalizing s w with
  | nil =>
    obtain rfl : ({} : Walk) = w := Outcome.done.inj h
    exact fun x hx => absurd hx (by simp)
  | cons a rest ih =>
    have hsingle := c.failsWith_probe ctx a s
    rcases hprobe : c.probe ctx a s with ⟨outcome, s₁⟩
    rw [hprobe] at hsingle
    cases outcome with
    | done _ =>
      rw [walk_exists hprobe] at h
      exact ih h
    | never =>
      rw [walk_never hprobe] at h
      exact nomatch h
    | failed y =>
      cases hmissing : y.is .objectNotFound with
      | true =>
        rw [walk_missing hprobe hmissing] at h
        obtain rfl := Outcome.done.inj h
        exact List.forall_mem_singleton.mpr (hsingle y rfl)
      | false =>
        obtain ⟨w', hw', rfl⟩ := (walk_failed_eq_done hprobe hmissing).mp h
        exact List.forall_mem_cons.mpr ⟨hsingle y rfl, ih hw'⟩

/-- What is made of the walk after an operation that failed with a single error. -/
theorem isFlat_of_walk_andThen {id : Identifier} {next : Walk → Operation α} {e' : Error}
    (he : e.IsSingle) (hnext : ∀ w s₁, (next w s₁).1 = .failed e' → e' = explained e w)
    (h : ((c.walk ctx id id.ancestors).andThen next s).1 = .failed e') : e'.IsFlat := by
  obtain ⟨w, s₁, hwalk, hrest⟩ := failed_of_walk_andThen h
  rw [hrest] at h
  rw [hnext w s₁ h]
  have hsingle := isSingle_of_walk (congrArg Prod.fst hwalk)
  exact isFlat_explained he.isFlat fun x hx => (hsingle x hx).isFlat

/-- A safe look-up makes no error that is not flat. -/
theorem failed_safely (id : Identifier) {find : Operation α}
    (h : (c.safely ctx id find s).1 = .failed e) : e.IsFlat ∨ (find s).1 = .failed e := by
  rcases c.safely_cases ctx id find s with hs | ⟨x, s₁, -, hsingle, -, -, hs⟩
  · rw [hs] at h
    exact .inr h
  · rw [hs] at h
    exact .inl (isFlat_of_walk_andThen hsingle (fun w _ hw => (Outcome.failed.inj hw).symm) h)

/-- A safe drop makes no error that is not flat. -/
theorem failed_dropSafely (id : Identifier) {drop : Operation Unit}
    (h : (c.dropSafely ctx id drop s).1 = .failed e) : e.IsFlat ∨ (drop s).1 = .failed e := by
  rcases c.dropSafely_cases ctx id drop s with hs | ⟨x, s₁, -, hsingle, -, -, hs⟩
  · rw [hs] at h
    exact .inr h
  · rw [hs] at h
    refine .inl (isFlat_of_walk_andThen hsingle ?_ h)
    exact fun w _ hw => (failed_of_skipped_or_explained hw).1

theorem Composed.failsWith {op : Operation α} (h : c.Composed ctx op) :
    op.FailsWith Error.IsFlat := by
  induction h with
  | statement kind hsql hread =>
    refine (failsWith_ofExcept fun e he => (hsql e he).isFlat).andThen fun sql => ?_
    have hrun : (c.run ctx kind sql).FailsWith Error.IsFlat := fun s e he =>
      (c.failsWith_run ctx kind sql s e he).isFlat
    exact hrun.andThen fun a => failsWith_ofExcept fun e he => (hread a e he).isFlat
  | safely id _ ih =>
    intro s e he
    rcases failed_safely id he with hflat | hfind
    · exact hflat
    · exact ih s e hfind
  | dropSafely id _ ih =>
    intro s e he
    rcases failed_dropSafely id he with hflat | hdrop
    · exact hflat
    · exact ih s e hdrop
  | map f _ ih => exact ih.andThen fun a s e he => nomatch he

end Client

/-- **Every error that is reported is flat**, a single one or at least two single ones joined.

* A request, or a part of one, is refused for an error that is flat; and if its rules record anything
  it is refused, for all that is recorded, however the errors of its parts are joined.
* Whatever a client is asked for fails with errors that are flat.
* A safe operation around any other operation reports a flat error or the error of that operation. -/
theorem errors_flat :
    (∀ q : Request,
      (∀ e, validate q = .error e → e.IsFlat) ∧ (∀ e, render q = .error e → e.IsFlat) ∧
        (Validate.failures q ≠ [] →
          ∃ e, validate q = .error e ∧ e.errors = (Validate.failures q).flatMap Error.errors)) ∧
      (∀ (c : Client) (ctx : Context) {α : Type} (op : Operation α), c.Asked ctx op →
        ∀ s e, (op s).1 = .failed e → e.IsFlat) ∧
      (∀ (c : Client) (ctx : Context) (id : Identifier) {α : Type} (find : Operation α) s e,
        (c.safely ctx id find s).1 = .failed e → e.IsFlat ∨ (find s).1 = .failed e) ∧
      ∀ (c : Client) (ctx : Context) (id : Identifier) (drop : Operation Unit) s e,
        (c.dropSafely ctx id drop s).1 = .failed e → e.IsFlat ∨ (drop s).1 = .failed e := by
  refine ⟨fun q => ⟨fun e => isFlat_of_validate, fun e he => ?_, fun hne => ?_⟩, ?_, ?_, ?_⟩
  · exact (Request.isLocal_of_render he).isFlat
  · obtain ⟨e, he, -, herrors⟩ := conclude_of_ne_nil (FlatFailures.isFlat q) hne
    exact ⟨e, he, herrors⟩
  · exact fun c ctx α op hasked => hasked.composed.failsWith
  · exact fun c ctx id α find s e => Client.failed_safely id
  · exact fun c ctx id drop s e => Client.failed_dropSafely id

/-! ## A drop that nothing explains -/

namespace HidingServer

/-- A server that hides whatever it is asked about. -/
def client : Client where
  driver.respond _ _ := { answer := .error { text := "does not exist or not authorized" } }

def context : Context := { token := 0 }

def drop : Operation ActionResult :=
  client.act context (.alert (.dropSafely ⟨"db", "sc", "a"⟩ {}))

/-- The kinds of the errors that the drop reports. -/
def kinds : List ErrorKind :=
  match (drop {}).1 with
  | .failed e => e.errors.map Error.kind
  | _ => []

/-- A schema without a name, cloned from another one at two points, of which neither is named. -/
def unnamed : CreateSchema :=
  { clone := some { point := some { atPoint := some {}, beforePoint := some {} } } }

/-- What two parts of a part record, and what two look-ups of a drop fail with, is all in one list. -/
theorem errors_flat_hidden :
    (∃ e, validate (Request.createSchema unnamed) = .error e ∧ e.IsFlat ∧
        e.errors.map Error.kind =
          [.invalidIdentifier, .invalidIdentifier, .validation, .validation, .validation]) ∧
      kinds = List.replicate 3 .notExistOrNotAuthorized ∧
      ∀ e, (drop {}).1 = .failed e → e.IsFlat := by
  obtain ⟨hrequest, hoperation, -, -⟩ := errors_flat
  obtain ⟨hflat, -, hrecorded⟩ := hrequest (.createSchema unnamed)
  have hne : Validate.failures (Request.createSchema unnamed) ≠ [] := List.cons_ne_nil _ _
  obtain ⟨e, hvalidate, herrors⟩ := hrecorded hne
  have hkinds : ((Validate.failures (Request.createSchema unnamed)).flatMap Error.errors).map
      Error.kind =
        [.invalidIdentifier, .invalidIdentifier, .validation, .validation, .validation] := by
    decide +kernel
  refine ⟨⟨e, hvalidate, hflat e hvalidate, (congrArg _ herrors).trans hkinds⟩, ?_, ?_⟩
  · decide +kernel
  · exact hoperation client context drop (.act _) {}

end HidingServer

end WarehouseAdmin
