import Lockable.Command.Run
import Lockable.Proofs.Calls

/-!
# Parts of a run

How a part of a run ends, what it submits and what it prints (`Command.Ends`), put together from the
parts that it consists of. Much of a run concerns the audit trail only (`Command.Trails`): that is
said once, and how such a part ends is all there is left to say.
-/

namespace Lockable.Command

variable {σ α β : Type} {s : Session σ} {outcome : Except Stop α} {new new' : List ActionRequest}
  {printed printed' : List Printed}

/-! ### What is understood -/

/-- What some options mean, where it is understood, is what they are said to mean. -/
theorem exists_of_unlessHelp {found : Option Options} {meaning : Options → Option α} {value : α}
    (h : unlessHelp found meaning = .as value) : ∃ o, meaning o = some value := by
  unfold unlessHelp at h
  split at h
  · cases h
  · next o =>
    split at h
    · cases h
    · split at h
      · next value' hvalue =>
        cases h
        exact ⟨o, hvalue⟩
      · cases h

/-! ### Parts one after another -/

/-- A part after another starts from the session that that leaves, if it has succeeded. -/
theorem run_bind (x : Part σ α) (g : α → Part σ β) (s : Session σ) :
    (x >>= g).run.run s = match x.run.run s with
      | (.ok a, s') => (g a).run.run s'
      | (.error stop, s') => (.error stop, s') := by
  rw [ExceptT.run_bind, StateT.run_bind]
  rcases x.run.run s with ⟨stop | a, s'⟩
  · rfl
  · rfl

/-- Parts that succeed one after another succeed each. -/
theorem exists_of_run_bind {x : Part σ α} {g : α → Part σ β} {b : β} {s' : Session σ}
    (h : (x >>= g).run.run s = (.ok b, s')) :
    ∃ a s₁, x.run.run s = (.ok a, s₁) ∧ (g a).run.run s₁ = (.ok b, s') := by
  rw [run_bind] at h
  rcases hx : x.run.run s with ⟨stop | a, s₁⟩ <;> rw [hx] at h
  · cases h
  · exact ⟨a, s₁, rfl, h⟩

theorem run_get (x : Except Failure α) (s : Session σ) :
    (get x : Part σ α).run.run s = (x.mapError .failed, s) := by
  cases x <;> rfl

theorem run_getThe (s : Session σ) :
    (getThe (Session σ) : Part σ (Session σ)).run.run s = (.ok s, s) := rfl

theorem run_set (s s' : Session σ) : (set s' : Part σ PUnit).run.run s = (.ok ⟨⟩, s') := rfl

/-- A new client does something. -/
theorem run_withClient {reading : Http.Reading} {settings : ServerSettings} {client : Client σ}
    (action : Client.Call σ α)
    (h : Client.start settings s.server reading = .ok client) :
    (withClient reading settings action).run.run s =
      ((client.call action).1.mapError .failed, { s with
      server := (client.call action).2.wire.server
      sent := s.sent ++ (client.call action).2.wire.sent
      submitted := s.submitted ++ (client.call action).2.submitted
      trail := s.trail.logAll (client.call action).2.records }) := by
  rw [withClient, run_bind, run_getThe]
  dsimp only
  rw [run_bind, run_get, h]
  dsimp only [Except.mapError]
  rw [run_bind, run_set]
  dsimp only
  rw [run_get]
  rfl

theorem run_withoutClient {settings : ServerSettings} (action : Client.Call σ α) {e : Failure}
    (h : Client.start settings s.server reading = .error e) :
    (withClient reading settings action).run.run s = (.error (.failed e), s) := by
  rw [withClient, run_bind, run_getThe]
  dsimp only
  rw [run_bind, run_get, h]
  rfl

/-- Printing changes at most what is printed. -/
theorem exists_run_put (console : Marks) (p : Printed) (s : Session σ) :
    ∃ printed, ((put console p).run.run s).2 = { s with printed } := by
  rw [put, run_bind, run_get]
  cases console.readAll p.texts with
  | error e => exact ⟨s.printed, rfl⟩
  | ok _ => exact ⟨_, rfl⟩

/-! ### What concerns the trail only -/

/-- The part changes nothing but the audit trail. -/
def Trails (x : Part σ α) : Prop := ∀ s, ∃ trail, (x.run.run s).2 = { s with trail }

namespace Trails

protected theorem pure (a : α) : Trails (pure a : Part σ α) := fun s => ⟨s.trail, rfl⟩

protected theorem get (x : Except Failure α) : Trails (get x : Part σ α) := fun s =>
  ⟨s.trail, by rw [run_get]⟩

protected theorem getReported (x : Except Failure α) : Trails (getReported x : Part σ α) :=
  fun s => ⟨s.trail, by cases x <;> rfl⟩

protected theorem log (r : Audit.Record) : Trails (log r : Part σ Unit) := fun s =>
  ⟨s.trail.log r.logger.display r, rfl⟩

protected theorem bind {x : Part σ α} {g : α → Part σ β} (hx : Trails x)
    (hg : ∀ a, Trails (g a)) : Trails (x >>= g) := by
  intro s
  obtain ⟨trail, htrail⟩ := hx s
  rw [run_bind]
  rcases hrun : x.run.run s with ⟨stop | a, s'⟩ <;> rw [hrun] at htrail
  · exact ⟨trail, htrail⟩
  · have htrail : s' = { s with trail } := htrail
    subst htrail
    exact hg a _

end Trails

theorem trails_openTrail (around : Surroundings σ) (level : String) (settings : Settings)
    (name : CommandName) : Trails (openTrail around level settings name) := by
  intro s
  rw [openTrail, run_bind, run_getThe]
  dsimp only
  rw [run_bind, run_set]
  dsimp only
  rw [run_get]
  exact ⟨_, rfl⟩

/-- Before the command only the trail is concerned. -/
theorem trails_prepare (around : Surroundings σ) (general : General) (name : CommandName) :
    Trails (prepare around general name) := by
  refine (Trails.get _).bind fun settings => (trails_openTrail _ _ _ _).bind fun _ => ?_
  split
  · exact .pure _
  · exact (Trails.getReported _).bind fun _ => .pure _

/-- The commands other than the desk are prepared alike. -/
theorem prepare_congr {name name' : CommandName} (h : name ≠ .desk) (h' : name' ≠ .desk)
    (around : Surroundings σ) (general : General) :
    prepare around general name = prepare around general name' := by
  have hname : (name != .desk) = (name' != .desk) := by
    rw [bne_iff_ne.mpr h, bne_iff_ne.mpr h']
  simp only [prepare, openTrail, hname]

/-- Without grants on the command line those of the configuration are in effect. -/
theorem permissions_of_prepare {around : Surroundings σ} {general : General} {name : CommandName}
    {context : Context} {s' : Session σ} (hgrants : general.grants = [])
    (h : (prepare around general name).run.run s = (.ok context, s')) :
    context.permissions = context.settings.session.permissions := by
  obtain ⟨settings, s₁, -, h⟩ := exists_of_run_bind h
  obtain ⟨-, s₂, -, h⟩ := exists_of_run_bind h
  rw [hgrants] at h
  cases h
  rfl

/-! ### How a part ends -/

/-- From this session the part **ends** in this way, and up to there it has submitted and printed
just this. -/
structure Ends (x : Part σ α) (s : Session σ) (outcome : Except Stop α) (new : List ActionRequest)
    (printed : List Printed) : Prop where
  outcome : (x.run.run s).1 = outcome
  submitted : (x.run.run s).2.submitted = s.submitted ++ new
  printed : (x.run.run s).2.printed = s.printed ++ printed

namespace Ends

/-- What concerns the trail only submits and prints nothing. -/
theorem of_trails {x : Part σ α} (hx : Trails x) (h : (x.run.run s).1 = outcome) :
    Ends x s outcome [] [] := by
  obtain ⟨trail, htrail⟩ := hx s
  refine ⟨h, ?_, ?_⟩
  · rw [htrail, List.append_nil]
  · rw [htrail, List.append_nil]

protected theorem pure (a : α) : Ends (pure a) s (.ok a) [] [] := of_trails (.pure a) rfl

protected theorem fail (cause : Failure) :
    Ends (fail cause : Part σ α) s (.error (.failed cause)) [] [] :=
  of_trails (fun s => ⟨s.trail, rfl⟩) rfl

protected theorem get (x : Except Failure α) : Ends (get x) s (x.mapError .failed) [] [] :=
  of_trails (.get x) (by rw [run_get])

protected theorem log (r : Audit.Record) : Ends (log r : Part σ Unit) s (.ok ⟨⟩) [] [] :=
  of_trails (.log r) rfl

protected theorem bind {x : Part σ α} {g : α → Part σ β} {a : α} {outcome : Except Stop β}
    (hx : Ends x s (.ok a) new printed)
    (hg : Ends (g a) (x.run.run s).2 outcome new' printed') :
    Ends (x >>= g) s outcome (new ++ new') (printed ++ printed') := by
  have hrun : (x >>= g).run.run s = (g a).run.run (x.run.run s).2 := by
    have hout := hx.outcome
    rw [run_bind]
    rcases h : x.run.run s with ⟨stop | b, s'⟩ <;> rw [h] at hout <;> cases hout
    rfl
  refine ⟨hrun ▸ hg.outcome, ?_, ?_⟩
  · rw [hrun, hg.submitted, hx.submitted, List.append_assoc]
  · rw [hrun, hg.printed, hx.printed, List.append_assoc]

/-- What would have come after a part that stops does not come. -/
protected theorem stop {x : Part σ α} {g : α → Part σ β} {stop : Stop}
    (hx : Ends x s (.error stop) new printed) : Ends (x >>= g) s (.error stop) new printed := by
  have hrun : (x >>= g).run.run s = (.error stop, (x.run.run s).2) := by
    have hout := hx.outcome
    rw [run_bind]
    rcases h : x.run.run s with ⟨stop' | b, s'⟩ <;> rw [h] at hout <;> cases hout
    rfl
  refine ⟨by rw [hrun], ?_, ?_⟩
  · rw [hrun, ← hx.submitted]
  · rw [hrun, ← hx.printed]

/-- What the console takes is printed. -/
protected theorem put {console : Marks} {p : Printed} (h : p.Fits console) :
    Ends (put console p) s (.ok ⟨⟩) [] [p] := by
  have hread : Ends (get (console.readAll p.texts)) s (.ok ()) [] [] :=
    Marks.readAll_eq_ok_iff.mpr h ▸ Ends.get _
  exact hread.bind ⟨rfl, (List.append_nil _).symm, rfl⟩

/-- Whether the console takes it or not, printing submits nothing. -/
theorem exists_put (console : Marks) (p : Printed) (s : Session σ) :
    ∃ outcome printed, Ends (Command.put console p) s outcome [] printed := by
  by_cases h : p.Fits console
  · exact ⟨_, _, .put h⟩
  · cases hread : console.readAll p.texts with
    | ok _ => exact absurd (Marks.readAll_eq_ok_iff.mp hread) h
    | error e =>
      have hrefused : Ends (get (console.readAll p.texts)) s (.error (.failed e)) [] [] :=
        hread ▸ Ends.get _
      exact ⟨_, _, hrefused.stop⟩

protected theorem forM {g : α → Part σ PUnit} (hg : ∀ a s, Ends (g a) s (.ok ⟨⟩) [] [])
    (l : List α) : Ends (l.forM g) s (.ok ⟨⟩) [] [] := by
  induction l generalizing s with
  | nil => exact .pure _
  | cons a rest ih => exact (hg a s).bind ih

/-- A new client does something, and what it submits counts. -/
theorem withClient {reading : Http.Reading} {settings : ServerSettings} {client : Client σ}
    (action : Client.Call σ α)
    (h : Client.start settings s.server reading = .ok client) :
    Ends (Command.withClient reading settings action) s ((client.call action).1.mapError .failed)
      (client.call action).2.submitted [] := by
  have hrun := run_withClient action h
  exact ⟨by rw [hrun], by rw [hrun], by rw [hrun, List.append_nil]⟩

/-- Without a client nothing comes of it. -/
theorem withoutClient {settings : ServerSettings} {action : Client.Call σ α} {e : Failure}
    (h : Client.start settings s.server reading = .error e) :
    Ends (Command.withClient reading settings action) s (.error (.failed e)) [] [] := by
  have hrun := run_withoutClient action h
  exact ⟨by rw [hrun], by rw [hrun, List.append_nil], by rw [hrun, List.append_nil]⟩

end Ends

end Lockable.Command
