import HelpPages.Log.Run

/-! # Outcomes

What is done in steps comes to what the steps come to, one after the other, and to a result
if all of them do.  All that puts runs together goes on from an outcome (`Run.attempt`), and
performing a run that goes on is performing the one part and then the other on the console
that is left (`Run.perform_attempt`).  On a console whose log shows nothing a run comes to its
outcome and writes its output (`Run.perform_of_isMute`).
-/
namespace HelpPages

variable {δ ε α β γ κ : Type}

/-- Two steps come to a result if the first one does and the second one does with it. -/
theorem bind_eq_ok_iff {x : Except ε α} {f : α → Except ε β} {b : β} :
    (x >>= f) = .ok b ↔ ∃ a, x = .ok a ∧ f a = .ok b := by
  cases x with
  | ok a => exact ⟨fun h => ⟨a, rfl, h⟩, fun ⟨_, ha, h⟩ => by cases ha; exact h⟩
  | error e => exact ⟨nofun, nofun⟩

theorem mapError_eq_ok_iff {x : Except ε α} {f : ε → δ} {a : α} :
    x.mapError f = .ok a ↔ x = .ok a := by
  cases x with
  | ok b => exact ⟨fun h => by cases h; rfl, fun h => by cases h; rfl⟩
  | error e => exact ⟨nofun, nofun⟩

theorem exists_eq_ok_iff {x : Except ε α} : (∃ a, x = .ok a) ↔ ∀ e, x ≠ .error e := by
  cases x with
  | ok a => exact ⟨fun _ => nofun, fun _ => ⟨a, rfl⟩⟩
  | error e => exact ⟨nofun, fun h => absurd rfl (h e)⟩

/-- A step fails if it comes to no result. -/
theorem exists_eq_error_iff {x : Except ε α} : (∃ e, x = .error e) ↔ ¬ ∃ a, x = .ok a := by
  cases x with
  | ok a => exact ⟨nofun, fun h => absurd ⟨a, rfl⟩ h⟩
  | error e => exact ⟨fun _ => nofun, fun _ => ⟨e, rfl⟩⟩

/-- Two steps fail if the first one does, or the second one with what the first one comes to. -/
theorem bind_eq_error_iff {x : Except ε α} {f : α → Except ε β} {e : ε} :
    (x >>= f) = .error e ↔ x = .error e ∨ ∃ a, x = .ok a ∧ f a = .error e := by
  cases x with
  | ok a =>
    refine ⟨fun h => .inr ⟨a, rfl, h⟩, ?_⟩
    rintro (h | ⟨_, ha, h⟩)
    · cases h
    · cases ha
      exact h
  | error e' =>
    refine ⟨fun h => by cases h; exact .inl rfl, ?_⟩
    rintro (h | ⟨_, ha, -⟩)
    · cases h
      rfl
    · cases ha

theorem map_eq_error_iff {x : Except ε α} {f : α → β} {e : ε} :
    x.map f = .error e ↔ x = .error e := by
  cases x with
  | ok a => exact ⟨nofun, nofun⟩
  | error e' => exact ⟨fun h => by cases h; rfl, fun h => by cases h; rfl⟩

theorem mapError_eq_error_iff {x : Except ε α} {f : ε → δ} {d : δ} :
    x.mapError f = .error d ↔ ∃ e, x = .error e ∧ f e = d := by
  cases x with
  | ok a => exact ⟨nofun, nofun⟩
  | error e =>
    exact ⟨fun h => ⟨e, rfl, Except.error.inj h⟩, fun ⟨_, he, h⟩ => by cases he; rw [← h]; rfl⟩

theorem exists_bind {x : Except ε α} {f : α → Except ε β} (hx : ∃ a, x = .ok a)
    (hf : ∀ a, ∃ b, f a = .ok b) : ∃ b, (x >>= f) = .ok b := by
  obtain ⟨a, rfl⟩ := hx
  exact hf a

/-- A step with a known result for every item comes to these results for all of them. -/
theorem mapM_of_forall {f : α → Except ε β} {g : α → β} {items : List α}
    (h : ∀ item ∈ items, f item = .ok (g item)) : items.mapM f = .ok (items.map g) := by
  induction items with
  | nil => rfl
  | cons item items ih =>
    obtain ⟨hitem, hitems⟩ := List.forall_mem_cons.mp h
    rw [List.mapM_cons, hitem, ih hitems]
    rfl

/-- A step that comes to a result for every item comes to one for all of them. -/
theorem exists_mapM {f : α → Except ε β} {items : List α}
    (h : ∀ item ∈ items, ∃ b, f item = .ok b) : ∃ bs, items.mapM f = .ok bs := by
  induction items with
  | nil => exact ⟨[], rfl⟩
  | cons item items ih =>
    obtain ⟨⟨b, hb⟩, hitems⟩ := List.forall_mem_cons.mp h
    obtain ⟨bs, hbs⟩ := ih hitems
    refine ⟨b :: bs, ?_⟩
    rw [List.mapM_cons, hb, hbs]
    rfl

/-- A step comes to a result for all items of a list only if it does for each of them. -/
theorem exists_of_mapM {f : α → Except ε β} {items : List α} {bs : List β}
    (h : items.mapM f = .ok bs) : ∀ item ∈ items, ∃ b, f item = .ok b := by
  induction items generalizing bs with
  | nil => nofun
  | cons item items ih =>
    rw [List.mapM_cons] at h
    obtain ⟨b, hitem, h⟩ := bind_eq_ok_iff.mp h
    obtain ⟨rest, hrest, -⟩ := bind_eq_ok_iff.mp h
    exact List.forall_mem_cons.mpr ⟨⟨b, hitem⟩, ih hrest⟩

/-- A step fails for a list of items if it fails for one of them and comes to a result for those
before it. -/
theorem mapM_eq_error_iff {f : α → Except ε β} {items : List α} {e : ε} :
    items.mapM f = .error e ↔ ∃ before item behind, items = before ++ item :: behind ∧
      (∀ x ∈ before, ∃ b, f x = .ok b) ∧ f item = .error e := by
  induction items with
  | nil => exact ⟨nofun, fun ⟨before, _, _, h, _⟩ => by cases before <;> cases h⟩
  | cons x xs ih =>
    rw [List.mapM_cons, bind_eq_error_iff]
    constructor
    · rintro (hx | ⟨b, hx, hrest⟩)
      · exact ⟨[], x, xs, rfl, nofun, hx⟩
      · rcases bind_eq_error_iff.mp hrest with hxs | ⟨_, -, hdone⟩
        · obtain ⟨before, item, behind, rfl, hbefore, hitem⟩ := ih.mp hxs
          exact ⟨x :: before, item, behind, rfl,
            List.forall_mem_cons.mpr ⟨⟨b, hx⟩, hbefore⟩, hitem⟩
        · cases hdone
    · rintro ⟨before, item, behind, hitems, hbefore, hitem⟩
      cases before with
      | nil =>
        cases hitems
        exact .inl hitem
      | cons y before =>
        cases hitems
        obtain ⟨⟨b, hx⟩, hbefore⟩ := List.forall_mem_cons.mp hbefore
        have hxs := ih.mpr ⟨before, item, behind, rfl, hbefore, hitem⟩
        exact .inr ⟨b, hx, bind_eq_error_iff.mpr (.inl hxs)⟩

namespace Run

/-! ## Going on from an outcome -/

theorem attempt_done (r : Run ε α) : r.attempt done = r := by
  induction r with
  | done outcome => rfl
  | tell event next ih => exact congrArg (tell event) (funext ih)
  | ask level channel next ih => exact congrArg (ask level channel) (funext ih)

theorem attempt_assoc (r : Run ε α) (go : Except ε α → Run δ β) (on : Except δ β → Run γ κ) :
    (r.attempt go).attempt on = r.attempt fun x => (go x).attempt on := by
  induction r with
  | done outcome => rfl
  | tell event next ih => exact congrArg (tell event) (funext ih)
  | ask level channel next ih => exact congrArg (ask level channel) (funext ih)

/-- The second part of a run is performed on the console that the first one leaves. -/
theorem perform_attempt (r : Run ε α) (go : Except ε α → Run δ β) (c : Console) :
    (r.attempt go).perform c = (go (r.perform c).1).perform (r.perform c).2 := by
  induction r generalizing c with
  | done outcome => rfl
  | tell event next ih =>
    rw [attempt, perform, perform]
    split
    · exact ih _ _
    · exact ih _ _
  | ask level channel next ih => exact ih _ _

theorem outcome_attempt (r : Run ε α) (go : Except ε α → Run δ β) :
    (r.attempt go).outcome = (go r.outcome).outcome := by
  induction r with
  | done outcome => rfl
  | tell event next ih => exact ih _
  | ask level channel next ih => exact ih _

theorem output_attempt (r : Run ε α) (go : Except ε α → Run δ β) :
    (r.attempt go).output = r.output ++ (go r.outcome).output := by
  induction r with
  | done outcome => rfl
  | tell event next ih =>
    rw [attempt, output, ih, ← List.append_assoc]
    rfl
  | ask level channel next ih => exact ih _

/-! ## One run after the other -/

/-- The parts of a run may be put together in any order. -/
instance : LawfulMonad (Run ε) :=
  .mk' (Run ε)
    (fun r => by
      show (r.attempt fun | .ok a => done (.ok a) | .error e => fail e) = r
      refine Eq.trans (congrArg r.attempt (funext fun x => ?_)) r.attempt_done
      cases x <;> rfl)
    (fun _ _ => rfl)
    (fun r f g => by
      show (r.attempt _).attempt _ = r.attempt _
      rw [attempt_assoc]
      refine congrArg r.attempt (funext fun x => ?_)
      cases x <;> rfl)

theorem outcome_bind (r : Run ε α) (f : α → Run ε β) :
    (r >>= f).outcome = r.outcome.bind fun a => (f a).outcome := by
  refine (r.outcome_attempt _).trans ?_
  cases r.outcome <;> rfl

/-- What is written on the way to a result stands before what is written behind it. -/
theorem output_bind_of_ok {r : Run ε α} {a : α} (h : r.outcome = .ok a) (f : α → Run ε β) :
    (r >>= f).output = r.output ++ (f a).output := by
  refine (r.output_attempt _).trans ?_
  rw [h]

theorem perform_bind_of_ok {r : Run ε α} {c after : Console} {a : α}
    (h : r.perform c = (.ok a, after)) (f : α → Run ε β) :
    (r >>= f).perform c = (f a).perform after := by
  refine (r.perform_attempt _ c).trans ?_
  rw [h]

theorem perform_bind_of_error {r : Run ε α} {c after : Console} {e : ε}
    (h : r.perform c = (.error e, after)) (f : α → Run ε β) :
    (r >>= f).perform c = (.error e, after) := by
  refine (r.perform_attempt _ c).trans ?_
  rw [h]
  rfl

/-- A run that comes to a result is not recovered from. -/
theorem output_recover_of_ok {r : Run ε α} {a : α} (h : r.outcome = .ok a)
    (handle : ε → Run ε α) : (r.recover handle).output = r.output := by
  refine (r.output_attempt _).trans ?_
  rw [h]
  exact List.append_nil _

theorem outcome_recover (r : Run ε α) (handle : ε → Run ε α) :
    (r.recover handle).outcome =
      match r.outcome with
      | .ok a => .ok a
      | .error e => (handle e).outcome := by
  refine (r.outcome_attempt _).trans ?_
  cases r.outcome <;> rfl

end Run

/-! ## Logs that show nothing -/

/-- The log shows no channel at any level. -/
def Log.IsMute (log : Log) : Prop := ∀ channel level, log.isActive channel level = false

/-- A mute log takes every event, and stays mute; no template is filled in. -/
theorem Console.receive_of_isMute {c : Console} (mute : c.log.IsMute) (event : Event) :
    ∃ after, c.receive event = .ok after ∧ after.log.IsMute ∧
      after.output = c.output ++ event.outputText := by
  cases event with
  | output text => exact ⟨_, rfl, mute, rfl⟩
  | message level channel template values =>
    refine ⟨c, ?_, mute, (List.append_nil _).symm⟩
    rw [receive, Log.emit, if_neg (Bool.eq_false_iff.mp (mute channel level))]
    rfl
  | hint id context values =>
    refine ⟨c, ?_, mute, (List.append_nil _).symm⟩
    have hquiet : c.log.hint c.hints id context values = .ok c.log := by
      rw [Log.hint]
      split
      · rfl
      · next hint _ => exact if_neg fun h => Bool.eq_false_iff.mp (mute "hint" hint.minLevel) h.2.2
    rw [receive, hquiet]
    rfl
  | complaint text => exact ⟨_, rfl, mute, (List.append_nil _).symm⟩

/-- On a console whose log shows nothing a run comes to its outcome and writes its output. -/
theorem Run.perform_of_isMute (r : Run ε α) {c : Console} (mute : c.log.IsMute) :
    (r.perform c).1 = r.outcome ∧ (r.perform c).2.output = c.output ++ r.output := by
  induction r generalizing c with
  | done outcome => exact ⟨rfl, (List.append_nil _).symm⟩
  | tell event next ih =>
    obtain ⟨after, htaken, hmute, houtput⟩ := Console.receive_of_isMute mute event
    obtain ⟨houtcome, hrest⟩ := ih (.ok ()) hmute
    rw [perform, htaken, output, ← List.append_assoc, ← houtput]
    exact ⟨houtcome, hrest⟩
  | ask level channel next ih =>
    rw [perform, mute channel level]
    exact ih false mute

end HelpPages
