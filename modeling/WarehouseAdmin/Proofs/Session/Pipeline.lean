import WarehouseAdmin.Session.Script
import WarehouseAdmin.Proofs.Session.Action
import WarehouseAdmin.Proofs.Session.Waiting

/-!
# One request, one statement

What an action comes to is a matter of three steps: its request is checked and rendered, the
statement is sent, and the answer is read. Without a time limit the middle one has three ends only,
and which of them it is can be told beforehand from what the driver does with the statement: the
answer is in time, or the context is cancelled first, or nothing ever happens. `act_sends_once` is
the whole of it, for every action that is one request.
-/

set_option autoImplicit false

namespace WarehouseAdmin

/-! ## Waiting without a time limit -/

/-- The answer comes, and until then nobody cancels the context. The driver may do so in the step in
which it answers. -/
def Behaviour.IsInTime (b : Behaviour) (ctx : Context) (s : Session) : Prop :=
  ∃ d, b.delay = some d ∧ (∀ x, b.cancels = some x → d ≤ x) ∧
    ∀ t ∈ s.cancelTimes ctx, s.now + d < t

/-- The context is cancelled, by the driver or at some time to come, and the answer is not there
before. That of the driver is not there in the same step either. -/
def Behaviour.IsCutShort (b : Behaviour) (ctx : Context) (s : Session) : Prop :=
  (∃ x, b.cancels = some x ∧ ∀ d, b.delay = some d → x < d) ∨
    ∃ t ∈ s.cancelTimes ctx, ∀ d, b.delay = some d → t ≤ s.now + d

/-- Where the answer neither is in time nor is cut short, there is nothing to wait for. -/
theorem Behaviour.nothing_happens {b : Behaviour} {ctx : Context} {s : Session}
    (hlate : ¬ b.IsInTime ctx s) (hlong : ¬ b.IsCutShort ctx s) :
    b.delay = none ∧ b.cancels = none ∧ s.cancelTimes ctx = [] := by
  obtain ⟨hdriver, hothers⟩ := not_or.mp hlong
  -- Before any cancellation, there would have to be an answer.
  have hown : ∀ x, b.cancels = some x → ∃ d, b.delay = some d ∧ d ≤ x := by
    intro x hx
    by_contra hnot
    exact hdriver ⟨x, hx, fun d hd => Nat.lt_of_not_le fun hle => hnot ⟨d, hd, hle⟩⟩
  have hafter : ∀ t ∈ s.cancelTimes ctx, ∃ d, b.delay = some d ∧ s.now + d < t := by
    intro t ht
    by_contra hnot
    exact hothers ⟨t, ht, fun d hd => Nat.le_of_not_lt fun hlt => hnot ⟨d, hd, hlt⟩⟩
  have hnone : b.delay = none := by
    cases hd : b.delay with
    | none => rfl
    | some d =>
      refine absurd ⟨d, hd, fun x hx => ?_, fun t ht => ?_⟩ hlate
      · obtain ⟨d', hd', hle⟩ := hown x hx
        obtain rfl : d = d' := Option.some.inj (hd.symm.trans hd')
        exact hle
      · obtain ⟨d', hd', hlt⟩ := hafter t ht
        obtain rfl : d = d' := Option.some.inj (hd.symm.trans hd')
        exact hlt
  refine ⟨hnone, Option.eq_none_iff_forall_ne_some.mpr fun x hx => ?_,
    List.eq_nil_iff_forall_not_mem.mpr fun t ht => ?_⟩
  · obtain ⟨d, hd, -⟩ := hown x hx
    exact absurd (hnone.symm.trans hd) (by simp)
  · obtain ⟨d, hd, -⟩ := hafter t ht
    exact absurd (hnone.symm.trans hd) (by simp)

namespace Client

open Operation

variable {c : Client} {ctx : Context} {kind : StatementKind} {sql : String} {s : Session}

section
variable (hlimit : c.limit? ctx s.now = none)
include hlimit

theorem ending_answered (h : (c.behaviour kind sql s).IsInTime ctx s) :
    ∃ time, c.ending ctx kind sql s = some (time, .answered) := by
  obtain ⟨d, hd, hown, htimes⟩ := h
  refine ⟨s.now + d, settle_eq_answered_iff.mpr ⟨⟨d, hd, rfl⟩, fun t ht => ?_, fun l hl => ?_,
    fun x hx => ?_⟩⟩
  · exact htimes t (List.min?_mem ht)
  · exact absurd (hlimit.symm.trans hl) (by simp)
  · exact Nat.add_le_add_left (hown x hx) s.now

theorem ending_cancelled (h : (c.behaviour kind sql s).IsCutShort ctx s) :
    ∃ time, c.ending ctx kind sql s = some (time, .cancelled) := by
  have hunlimited : ∀ l, c.limit? ctx s.now ≠ some l := by simp [hlimit]
  rcases h with ⟨x, hown, hlater⟩ | ⟨t, ht, hlater⟩
  · exact settle_cancelled_of_own hown hlater fun l hl => absurd hl (hunlimited l)
  · -- The first time from which on the context is cancelled is not later than the one that is given.
    obtain ⟨first, hfirst, -, hle⟩ := Session.exists_cancelTime ht
    exact settle_cancelled hfirst (fun d hd => Nat.le_trans hle (hlater d hd))
      fun l hl => absurd hl (hunlimited l)

theorem ending_never (h : (c.behaviour kind sql s).delay = none ∧
    (c.behaviour kind sql s).cancels = none ∧ s.cancelTimes ctx = []) :
    c.ending ctx kind sql s = none := by
  obtain ⟨hdelay, hcancels, htimes⟩ := h
  unfold ending
  simp [hlimit, hdelay, hcancels, Session.cancelTime?, htimes, settle, endings, earliest]

end

end Client

open Client Operation

/-- **One request, one statement.** An action that looks no containers up is done under a context
that is not cancelled, without a time limit. It is one request. If this is refused, the action
fails with the error of the check and the session is as it was. Otherwise one statement is sent, the
text of the request, which is about the object that the action names. If its answer is in time, an
error of the driver comes back classified, and rows come to what the action makes of them. If the
context is cancelled before, the action says so, and if nothing ever happens, it waits for ever. -/
theorem act_sends_once (c : Client) (ctx : Context) {a : Action} {s : Session}
    (ha : a.isSafe = false) (hs : s.isCancelled ctx = false) (hdeadline : ctx.deadline = none)
    (htimeout : c.settings.timeoutSeconds = none) :
    ∃ q, a.request? = some q ∧
      (∀ e, render q = .error e → c.act ctx a s = (.failed e, s)) ∧
      ∀ sql, render q = .ok sql →
        let b := c.behaviour a.kind sql s
        (c.act ctx a s).2.dispatches = s.dispatches ++ [⟨s.now, a.kind, sql⟩] ∧
          (b.IsInTime ctx s →
            (∀ e, b.answer = .error e → (c.act ctx a s).1 = .failed e.classify) ∧
            ∀ x, b.answer = .ok x → ∃ r, a.Means x r ∧ (c.act ctx a s).1 = .ofExcept r) ∧
          (b.IsCutShort ctx s → (c.act ctx a s).1 = .failed .cancelled) ∧
          (¬ b.IsInTime ctx s → ¬ b.IsCutShort ctx s → (c.act ctx a s).1 = .never) := by
  obtain ⟨q, hq⟩ := Action.exists_request ha
  have hsends := c.sends_act ctx hq
  have hlimit : c.limit? ctx s.now = none := by
    simp [limit?, Context.remaining, hdeadline, htimeout]
  refine ⟨q, hq, fun e he => ?_, fun sql hsql => ?_⟩
  · rw [he] at hsends
    exact hsends.rejected s
  · rw [hsql] at hsends
    intro b
    have hrun := c.run_fst ctx a.kind sql hs
    refine ⟨?_, fun h => ⟨fun e he => ?_, fun x hx => ?_⟩, fun h => ?_, fun hlate hlong => ?_⟩
    · rw [hsends.handsOver s, handedOver, hs]
      rfl
    · obtain ⟨time, hending⟩ := ending_answered hlimit h
      rw [hending] at hrun
      refine hsends.fst_of_failed s (hrun.trans ?_)
      show Outcome.ofExcept (b.answer.mapError _) = _
      rw [he]
      rfl
    · exact hsends.fst_of_done s
        (c.run_fst_of_isAnswered ctx ⟨hs, ending_answered hlimit h⟩ hx)
    · obtain ⟨time, hending⟩ := ending_cancelled hlimit h
      rw [hending] at hrun
      exact hsends.fst_of_failed s hrun
    · rw [ending_never hlimit (b.nothing_happens hlate hlong)] at hrun
      exact hsends.fst_of_never s hrun

/-! ## A warehouse is suspended under its name -/

namespace SuspendedWarehouse

/-- A server that answers a little later. -/
def client : Client := { driver := .scripted [⟨"ALTER WAREHOUSE", { delay := some 5 }⟩] }

def context : Context := { token := 0 }

/-- A request to suspend some warehouse. -/
def request : AlterWarehouse := { name := ⟨"other"⟩, suspend := some true }

/-- The action names the warehouse, whatever the request says. -/
theorem act_sends_once_suspended :
    (client.act context (.warehouse (.alter ⟨"w"⟩ request)) {}).2.dispatches =
        [⟨0, .execute, "ALTER WAREHOUSE \"w\" SUSPEND"⟩] ∧
      (client.act context (.warehouse (.alter ⟨"w"⟩ request)) {}).1 = .done (.warehouse .done) := by
  obtain ⟨q, hq, -, h⟩ := act_sends_once (a := .warehouse (.alter ⟨"w"⟩ request)) (s := {}) client
    context rfl rfl rfl rfl
  obtain rfl := Option.some.inj hq
  obtain ⟨hsent, hanswered, -, -⟩ := h "ALTER WAREHOUSE \"w\" SUSPEND" rfl
  refine ⟨hsent, ?_⟩
  obtain ⟨r, ⟨x, rfl, rfl⟩, hr⟩ :=
    (hanswered ⟨5, rfl, nofun, by simp [Session.cancelTimes]⟩).2 {} rfl
  exact hr

end SuspendedWarehouse

end WarehouseAdmin
