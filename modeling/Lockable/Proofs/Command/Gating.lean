import Lockable.Proofs.Command.Checked

/-!
# Gating on the command line

What a whole command line comes to, once it is understood and its configuration accepted
(`Command.Accepted`). A `dispatch` submits its one request when the last listed entry of every name
allows the action, and with `--force` without asking; whatever becomes of the request, nothing else
is submitted. `allowed` shows as enabled what `resources` lists for every one of the named entries.
-/

namespace Lockable.Command

variable {σ : Type} {around : Surroundings σ} {context : Context} {s : Session σ} {server : σ}
  {l : List Resource} {names : List String} {a : RowAction} {arguments : List String} {task : Task}
  {outcome : Except Stop Unit} {new : List ActionRequest} {printed : List Printed}

/-! ### The listing -/

/-- The listing that the server gives a command. -/
def listing (around : Surroundings σ) (context : Context) (server : σ) :
    Except Failure (List Resource) :=
  match Client.start context.settings.server server around.reading with
  | .error e => .error e
  | .ok client => (client.call (Client.listResources around.transport
      (Settings.textOrNull context.settings.session.user))).1

theorem ends_fetchAll (around : Surroundings σ) (context : Context) (s : Session σ) :
    Ends (fetchAll around context) s ((listing around context s.server).mapError .failed) []
      [] := by
  cases hclient : Client.start context.settings.server s.server around.reading with
  | error e =>
    rw [listing, hclient]
    exact Ends.withoutClient hclient
  | ok client =>
    have hcall := Ends.withClient (Client.listResources around.transport
      (Settings.textOrNull context.settings.session.user)) hclient
    have hsubmitted : (client.call (Client.listResources around.transport _)).2.submitted =
        client.submitted :=
      Client.keeps_submitted_listResources (Settings.textOrNull context.settings.session.user)
        client
    rw [hsubmitted, (Client.empty_of_start hclient).1] at hcall
    rw [listing, hclient, fetchAll]
    exact hcall

/-- What is fetched is the last entry of every name. -/
theorem ends_fetch (hl : listing around context s.server = .ok l)
    (h : ∀ name ∈ names, (find? l name).isSome) :
    Ends (fetch around context names) s (.ok (names.filterMap (find? l))) [] [] := by
  have hall := ends_fetchAll around context s
  rw [hl] at hall
  have hpick : Ends (get (pick l names)) ((fetchAll around context).run.run s).2
      (.ok (names.filterMap (find? l))) [] [] :=
    pick_of_isSome h ▸ Ends.get _
  exact hall.bind hpick

/-! ### Asking the bar -/

/-- Whether the server lists what offers the action for every name. -/
def Grants (around : Surroundings σ) (context : Context) (server : σ) (names : List String)
    (a : RowAction) : Prop :=
  ∃ l, listing around context server = .ok l ∧ Offered context.effective l names a

/-- The run goes on where the action is offered. -/
theorem ends_checkAllowed (hne : names ≠ []) (h : Grants around context s.server names a) :
    Ends (checkAllowed around context a names) s (.ok ⟨⟩) [] [] := by
  obtain ⟨l, hl, hoffered⟩ := h
  have hfound : ∀ name ∈ names, (find? l name).isSome := fun name hname => by
    obtain ⟨r, hr, -⟩ := hoffered name hname
    rw [hr]
    rfl
  have hfetch := ends_fetch hl hfound
  obtain ⟨bar, hevaluate, hchecked⟩ :=
    exists_ends_evaluate context ((fetch around context names).run.run s).2 hfound
  have henabled := (enabled_iff_of_checked hchecked hne hfound).mpr hoffered
  refine hfetch.bind (hevaluate.bind ?_)
  rw [if_neg (not_not_intro henabled)]
  exact .pure _

/-- The run stops where the action is not offered, or nothing is listed. -/
theorem exists_ends_checkAllowed (hne : names ≠ [])
    (h : ¬ Grants around context s.server names a) :
    ∃ stop, Ends (checkAllowed around context a names) s (.error stop) [] [] := by
  have hall := ends_fetchAll around context s
  cases hl : listing around context s.server with
  | error e =>
    rw [hl] at hall
    exact ⟨_, hall.stop.stop⟩
  | ok l =>
    by_cases hfound : ∀ name ∈ names, (find? l name).isSome
    · obtain ⟨bar, hevaluate, hchecked⟩ :=
        exists_ends_evaluate context ((fetch around context names).run.run s).2 hfound
      have hdenied : bar.states.get (.action a) ≠ .enabled := fun henabled =>
        h ⟨l, hl, (enabled_iff_of_checked hchecked hne hfound).mp henabled⟩
      refine ⟨.failed ?_, (ends_fetch hl hfound).bind (hevaluate.bind ?_)⟩
      rotate_left
      · rw [if_pos hdenied]
        exact .fail _
    · -- a name that is not listed stops the run before the bar is asked
      push Not at hfound
      obtain ⟨name, hname, hmissing⟩ := hfound
      obtain ⟨e, he⟩ := exists_pick_error hname (by simpa using hmissing)
      rw [hl] at hall
      have hpick : Ends (get (pick l names)) ((fetchAll around context).run.run s).2
          (.error (.failed e)) [] [] :=
        he ▸ Ends.get _
      exact ⟨_, (hall.bind hpick).stop⟩

/-! ### Dispatching -/

/-- What is to be submitted is submitted if there is a client for the address of the server,
whatever becomes of it. -/
theorem exists_ends_sendAction {client : Client σ} {r : ActionRequest}
    (hr : ActionRequest.ofChecked a names = some r)
    (h : Client.start context.settings.server s.server around.reading = .ok client) :
    ∃ outcome printed, Ends (sendAction around context a names) s outcome [r] printed := by
  let call : Client.Call σ (Option ActionRequest) :=
    Client.dispatch around.transport a.capability (some { checked := names })
  have hsubmitted : (client.call call).2.submitted = client.submitted ++ [r] := by
    rw [Client.submitted_dispatch (ActionRequest.ofSelection_checked a names), hr]
    rfl
  have hcall := Ends.withClient call h
  rw [hsubmitted, (Client.empty_of_start h).1] at hcall
  cases houtcome : (client.call call).1 with
  | error e =>
    rw [houtcome] at hcall
    exact ⟨_, _, hcall.stop⟩
  | ok _ =>
    rw [houtcome] at hcall
    -- the request is out by the time that the line is printed, or refused by the console
    let shown := ", ".intercalate names
    obtain ⟨outcome, printed, hput⟩ := Ends.exists_put around.console
      (.line s!"[green]{a.endpoint}[/] sent for {shown}")
      ((withClient around.reading context.settings.server call).run.run s).2
    exact ⟨_, _, hcall.bind hput⟩

/-- Without a client nothing is submitted. -/
theorem exists_ends_sendAction_nil {e : Failure}
    (h : Client.start context.settings.server s.server around.reading = .error e) :
    ∃ outcome printed, Ends (sendAction around context a names) s outcome [] printed :=
  ⟨_, _, (Ends.withoutClient h).stop⟩

/-- When a dispatch **sends** something: if the server lists what offers the action for every name;
with `--force` as soon as there is a client for the address of the server. -/
def Sends (around : Surroundings σ) (context : Context) (server : σ) (names : List String)
    (a : RowAction) : Bool → Prop
  | true =>
    ∃ client : Client σ, Client.start context.settings.server server around.reading = .ok client
  | false => Grants around context server names a

theorem Grants.exists_start (h : Grants around context server names a) :
    ∃ client : Client σ,
      Client.start context.settings.server server around.reading = .ok client := by
  obtain ⟨l, hl, -⟩ := h
  rw [listing] at hl
  split at hl
  · cases hl
  · next client hclient => exact ⟨client, hclient⟩

/-- A dispatch submits its request when it sends something. -/
theorem exists_ends_runDispatch {r : ActionRequest} {word : String} {force : Bool}
    (haction : readAction word = .ok a) (hr : ActionRequest.ofChecked a names = some r)
    (hne : names ≠ []) (h : Sends around context s.server names a force) :
    ∃ outcome printed,
      Ends (runDispatch around context word names force) s outcome [r] printed := by
  have hread : getReported (readAction word) = (pure a : Part σ RowAction) := by
    rw [haction]
    rfl
  rw [runDispatch, hread, pure_bind]
  cases force with
  | true =>
    obtain ⟨client, hclient⟩ := h
    exact exists_ends_sendAction hr hclient
  | false =>
    obtain ⟨client, hclient⟩ := h.exists_start
    -- the listing had a client of its own: the one that submits meets the server that it left
    obtain ⟨client, hclient⟩ := Client.exists_start hclient _
    obtain ⟨outcome, printed, hsend⟩ : ∃ outcome printed,
        Ends (sendAction around context a names) _ outcome [r] printed :=
      exists_ends_sendAction hr hclient
    exact ⟨outcome, printed, (ends_checkAllowed hne h).bind hsend⟩

/-- Otherwise a dispatch submits nothing. -/
theorem exists_ends_runDispatch_nil {word : String} {force : Bool}
    (haction : readAction word = .ok a) (hne : names ≠ [])
    (h : ¬ Sends around context s.server names a force) :
    ∃ outcome printed,
      Ends (runDispatch around context word names force) s outcome [] printed := by
  have hread : getReported (readAction word) = (pure a : Part σ RowAction) := by
    rw [haction]
    rfl
  rw [runDispatch, hread, pure_bind]
  cases force with
  | true =>
    cases hclient : Client.start context.settings.server s.server around.reading with
    | error e => exact exists_ends_sendAction_nil hclient
    | ok client => exact absurd ⟨client, hclient⟩ h
  | false =>
    obtain ⟨stop, hask⟩ := exists_ends_checkAllowed hne h
    exact ⟨_, _, hask.stop⟩

/-! ### Showing -/

/-- The bar is shown, if the console takes it, with the row actions as enabled that every name
offers. -/
theorem exists_ends_runAllowed (hne : names ≠ []) (hl : listing around context s.server = .ok l)
    (hfound : ∀ name ∈ names, (find? l name).isSome) :
    ∃ bar, ((barTable names bar).Fits around.console →
        Ends (runAllowed around context names) s (.ok ⟨⟩) [] [barTable names bar]) ∧
      ∀ a, bar.states.get (.action a) = .enabled ↔ Offered context.effective l names a := by
  obtain ⟨bar, hevaluate, hchecked⟩ :=
    exists_ends_evaluate context ((fetch around context names).run.run s).2 hfound
  exact ⟨bar, fun hfits => (ends_fetch hl hfound).bind (hevaluate.bind (.put hfits)),
    fun a => enabled_iff_of_checked hchecked hne hfound⟩

private theorem eq_of_buttonId {b : BarButton} (h : b.capability.buttonId = a.capability.buttonId) :
    b = .action a := by
  revert h
  cases b with
  | action b => cases a <;> cases b <;> decide
  | editNote => cases a <;> decide

/-- A button is shown as enabled when it is. -/
theorem mem_rows_iff {bar : ActionBar} :
    [a.capability.buttonId, "[green]enabled[/]"] ∈ BarButton.all.map (buttonRow bar) ↔
      bar.states.get (.action a) = .enabled := by
  constructor
  · intro h
    obtain ⟨b, -, hb⟩ := List.mem_map.mp h
    obtain ⟨hid, hcell⟩ := List.cons.inj hb
    -- the first cell says which button it is, the second one its state
    rw [← eq_of_buttonId hid]
    have hcell := (List.cons.inj hcell).1
    generalize bar.states.get b = state at hcell
    revert hcell
    cases state <;> decide
  · intro h
    refine List.mem_map.mpr ⟨.action a, BarButton.mem_all _, ?_⟩
    rw [buttonRow, BarButton.capability, h]
    rfl

/-- In the row of an entry stand the actions that are valid for it. -/
theorem exists_of_resourceRow {p : Permissions} {r : Resource} {row : List String}
    (h : resourceRow p r = .ok row) : ∃ owner note,
      row = [r.name, r.status.word, owner, actionsCell (r.allowedActions p), note] := by
  obtain ⟨owner, -, h⟩ := exists_of_bind_eq_ok h
  obtain ⟨note, -, h⟩ := exists_of_bind_eq_ok h
  cases h
  exact ⟨owner, note, rfl⟩

theorem forall₂_of_mapM {p : Permissions} {rows : List (List String)}
    (h : l.mapM (resourceRow p) = .ok rows) :
    List.Forall₂ (fun r row => row[3]? = some (actionsCell (r.allowedActions p))) l rows := by
  induction l generalizing rows with
  | nil =>
    cases h
    exact .nil
  | cons r rest ih =>
    rw [List.mapM_cons] at h
    obtain ⟨row, hrow, h⟩ := exists_of_bind_eq_ok h
    obtain ⟨rows', hrest, h⟩ := exists_of_bind_eq_ok h
    cases h
    obtain ⟨owner, note, rfl⟩ := exists_of_resourceRow hrow
    exact .cons rfl (ih hrest)

/-- All entries are listed with the actions that are valid for them, if they can be drawn. -/
theorem ends_runResources {rows : List (List String)}
    (hl : listing around context s.server = .ok l)
    (hrows : l.mapM (resourceRow context.effective) = .ok rows)
    (hfits : (resourceTable rows).Fits around.console) :
    Ends (runResources around context) s (.ok ⟨⟩) [] [resourceTable rows] := by
  have hall := ends_fetchAll around context s
  rw [hl] at hall
  obtain ⟨bar, hload, hchecked⟩ :=
    exists_ends_loadBar context ((fetchAll around context).run.run s).2
  have hp : bar.permissions = context.effective := (hchecked fun _ => none).permissions
  have hget : ∀ s : Session σ,
      Ends (get (l.mapM (resourceRow bar.permissions))) s (.ok rows) [] [] := by
    intro s
    rw [hp, hrows]
    exact .get _
  exact hall.bind (hload.bind ((hget _).bind (.put hfits)))

/-! ### Whole runs -/

/-- The command line is understood, and its configuration and grants are **accepted**: they come to
this context, and the command to this task. -/
def Accepted (around : Surroundings σ) (server : σ) (arguments : List String) (context : Context)
    (task : Task) : Prop :=
  ∃ general name rest s, readGeneral arguments = .as (general, name, rest) ∧
    (prepare around general name).run.run { server } = (.ok context, s) ∧
    readTask name rest = .as task

theorem submitted_ending (console : Marks) (stop : Stop) (s : Session σ) :
    (stop.ending console s).session.submitted = s.submitted := by
  cases stop with
  | help => rfl
  | nonsense => rfl
  | failed cause =>
    rw [Stop.ending]
    split
    · split
      · rfl
      · rfl
    · rfl

namespace Accepted

/-- The task starts from what was prepared, and nothing has happened by then but that the audit
trail was opened. -/
theorem exists_prepared (h : Accepted around server arguments context task) :
    ∃ general name rest trail, readTask name rest = .as task ∧
      (prepare around general name).run.run { server } = (.ok context, { server, trail }) ∧
      (runAll around arguments).run.run { server } =
        (runTask around context task).run.run { server, trail } := by
  obtain ⟨general, name, rest, s, hgeneral, hprepare, htask⟩ := h
  obtain ⟨trail, htrail⟩ := trails_prepare around general name { server }
  rw [hprepare] at htrail
  have htrail : s = { server, trail } := htrail
  have hunderstand :
      (understand (readGeneral arguments) : Part σ _) = pure (general, name, rest) := by
    rw [hgeneral]
    rfl
  have hunderstand' : (understand (readTask name rest) : Part σ _) = pure task := by
    rw [htask]
    rfl
  refine ⟨general, name, rest, trail, htask, htrail ▸ hprepare, ?_⟩
  rw [runAll, hunderstand, pure_bind]
  dsimp only
  rw [run_bind, hprepare, hunderstand', htrail]
  dsimp only
  rw [pure_bind]

/-- Up to the task nothing has happened but that the audit trail was opened. -/
theorem exists_run (h : Accepted around server arguments context task) :
    ∃ trail, (runAll around arguments).run.run { server } =
      (runTask around context task).run.run { server, trail } := by
  obtain ⟨-, -, -, trail, -, -, hrun⟩ := h.exists_prepared
  exact ⟨trail, hrun⟩

/-- What the task submits is what the run submits, however it ends, and what it prints if it
succeeds is what the run prints. -/
theorem exists_session (h : Accepted around server arguments context task) :
    ∃ s : Session σ, s.server = server ∧ ∀ outcome new printed,
      Ends (runTask around context task) s outcome new printed →
        (run around server arguments).session.submitted = new ∧
        (outcome = .ok ⟨⟩ → (run around server arguments).session.printed = printed) := by
  obtain ⟨trail, hrun⟩ := h.exists_run
  refine ⟨{ server, trail }, rfl, fun outcome new printed hends => ?_⟩
  obtain ⟨houtcome, hsubmitted, hprinted⟩ := hends
  rw [run, hrun]
  rcases hs : (runTask around context task).run.run { server, trail } with ⟨stop | ⟨⟩, s⟩ <;>
    rw [hs] at houtcome hsubmitted hprinted
  · refine ⟨(submitted_ending _ stop s).trans hsubmitted, fun hok => ?_⟩
    cases houtcome.trans hok
  · exact ⟨hsubmitted, fun _ => hprinted⟩

end Accepted

/-- Without grants on the command line those of the configuration are in effect. -/
theorem Accepted.permissions {general : General} {name : CommandName} {rest : List String}
    (h : Accepted around server arguments context task)
    (hgeneral : readGeneral arguments = .as (general, name, rest)) (hgrants : general.grants = []) :
    context.permissions = context.settings.session.permissions := by
  obtain ⟨general', name', rest', s, hgeneral', hprepare, -⟩ := h
  cases hgeneral.symm.trans hgeneral'
  exact permissions_of_prepare hgrants hprepare

/-! ### Tasks that name resources -/

/-- A task that is for some resources names at least one. -/
def Task.Named : Task → Prop
  | .allowed names => names ≠ []
  | .dispatch _ names _ => names ≠ []
  | _ => True

theorem named_of_readTask {name : CommandName} {rest : List String}
    (h : readTask name rest = .as task) : task.Named := by
  cases name with
  | desk =>
    obtain ⟨o, ho⟩ := exists_of_unlessHelp h
    dsimp only at ho
    split at ho <;> cases ho
    trivial
  | resources =>
    obtain ⟨o, ho⟩ := exists_of_unlessHelp h
    dsimp only at ho
    split at ho <;> cases ho
    trivial
  | allowed =>
    obtain ⟨o, ho⟩ := exists_of_unlessHelp h
    dsimp only at ho
    split at ho <;> cases ho
    next hnames => exact fun hnil => hnames (List.isEmpty_iff.mpr hnil)
  | dispatch =>
    obtain ⟨o, ho⟩ := exists_of_unlessHelp h
    split at ho <;> cases ho
    exact List.cons_ne_nil _ _
  | note =>
    obtain ⟨o, ho⟩ := exists_of_unlessHelp h
    dsimp only at ho
    split at ho <;> cases ho
    trivial
  | config =>
    have h : readConfig rest = .as task := h
    unfold readConfig at h
    split at h
    · obtain ⟨o, ho⟩ := exists_of_unlessHelp h
      split at ho <;> cases ho
      trivial
    all_goals cases h

theorem Accepted.named (h : Accepted around server arguments context task) : task.Named := by
  obtain ⟨general, name, rest, s, -, -, htask⟩ := h
  exact named_of_readTask htask

/-- **The commands go by the rules.** Without `--force`, a `dispatch` submits its request, once and
for every name once, exactly when the server lists something of each name whose last entry allows
the action; with `--force`, whatever is listed, as soon as there is a client for the address of the
server. And where everything named is listed and the listing can be drawn, `allowed` shows as
enabled just those actions that `resources` lists for the last entry of every name, each if the
console takes the markup of its table. -/
theorem commands_gated (around : Surroundings σ) (server : σ) (context : Context)
    (names : List String) :
    (∀ arguments word a force,
      Accepted around server arguments context (.dispatch word names force) →
      readAction word = .ok a →
        ∃ r : ActionRequest, r.action = a ∧ r.resources = distinct names ∧
          (Sends around context server names a force →
            (run around server arguments).session.submitted = [r]) ∧
          (¬ Sends around context server names a force →
            (run around server arguments).session.submitted = [])) ∧
      ∀ arguments arguments' l, Accepted around server arguments context (.allowed names) →
        Accepted around server arguments' context .resources →
        listing around context server = .ok l → (∀ name ∈ names, name ∈ l.map Resource.name) →
          (∃ bar, ((barTable names bar).Fits around.console →
              (run around server arguments).session.printed = [barTable names bar]) ∧
            ∀ a : RowAction, [a.capability.buttonId, "[green]enabled[/]"] ∈
                BarButton.all.map (buttonRow bar) ↔
              ∀ name ∈ names, ∃ r, find? l name = some r ∧
                a ∈ r.allowedActions context.effective) ∧
          ∀ rows, l.mapM (resourceRow context.effective) = .ok rows →
            ((resourceTable rows).Fits around.console →
              (run around server arguments').session.printed = [resourceTable rows]) ∧
            List.Forall₂ (fun r row =>
              row[3]? = some (actionsCell (r.allowedActions context.effective))) l rows := by
  refine ⟨fun arguments word a force h haction => ?_,
    fun arguments arguments' l h h' hl hnames => ⟨?_, fun rows hrows => ⟨fun hfits => ?_, ?_⟩⟩⟩
  · have hne : names ≠ [] := h.named
    have hdistinct : distinct names ≠ [] := mt distinct_eq_nil.mp hne
    have hr : ActionRequest.ofChecked a names = some ⟨a, distinct names, hdistinct⟩ :=
      dif_neg hdistinct
    obtain ⟨s, hs, hends⟩ := h.exists_session
    refine ⟨⟨a, distinct names, hdistinct⟩, rfl, rfl, fun hsends => ?_, fun hsends => ?_⟩
    · obtain ⟨outcome, printed, hrun⟩ := exists_ends_runDispatch haction hr hne (hs ▸ hsends)
      exact (hends _ _ _ hrun).1
    · obtain ⟨outcome, printed, hrun⟩ := exists_ends_runDispatch_nil haction hne (hs ▸ hsends)
      exact (hends _ _ _ hrun).1
  · have hne : names ≠ [] := h.named
    have hfound : ∀ name ∈ names, (find? l name).isSome := fun name hname =>
      find?_isSome_iff.mpr (hnames name hname)
    obtain ⟨s, hs, hends⟩ := h.exists_session
    obtain ⟨bar, hrun, henabled⟩ := exists_ends_runAllowed hne (hs ▸ hl) hfound
    refine ⟨bar, fun hfits => (hends _ _ _ (hrun hfits)).2 rfl, fun a => ?_⟩
    rw [mem_rows_iff, henabled, Offered]
    simp only [Resource.allowedActions, List.mem_filter, RowAction.mem_all, true_and]
  · obtain ⟨s, hs, hends⟩ := h'.exists_session
    exact (hends _ _ _ (ends_runResources (hs ▸ hl) hrows hfits)).2 rfl
  · exact forall₂_of_mapM hrows

/-- Whether the server lists one board, and reserving it is granted. -/
def reservesBoard (around : Surroundings Unit) (general : General) : Bool :=
  match (prepare around general .dispatch).run.run { server := () } with
  | (.ok context, _) =>
    match listing around context () with
    | .ok [board] => board.name == "board" && board.allows context.effective .reserve
    | _ => false
  | _ => false

/-- Then each command but the desk is prepared for that board. -/
theorem exists_of_reservesBoard {around : Surroundings Unit} {general : General}
    (h : reservesBoard around general = true) :
    ∃ context s board, (∀ name, name ≠ .desk →
        (prepare around general name).run.run { server := () } = (.ok context, s)) ∧
      listing around context () = .ok [board] ∧ board.name = "board" ∧
      board.allows context.effective .reserve = true := by
  rw [reservesBoard] at h
  split at h
  · next context s hprepare =>
    split at h
    · next board hl =>
      obtain ⟨hname, hallows⟩ := Bool.and_eq_true_iff.mp h
      refine ⟨context, s, board, fun name hdesk => ?_, hl, by simpa using hname, hallows⟩
      have hsame : prepare around general .dispatch = prepare around general name :=
        prepare_congr (by decide) hdesk around general
      exact hsame ▸ hprepare
    · cases h
  · cases h

/-- A free board that may be reserved: `dispatch` submits that once, though the board is named
twice, and `allowed` shows it. -/
theorem commands_gated_board :
    let listed := "\x7b\"resources\": [\x7b\"name\": \"board\"\x7d]\x7d"
    let around : Surroundings Unit := {
      environment := []
      files := Files.ofTexts [("lockdesk.yml",
        "server:\n  base_url: http://ci\nsession:\n  permissions:\n    RESERVE: true\n")]
      transport := fun _ server =>
        (.ok { status := 200, body := Utf8.encode listed.toList }, server) }
    let line (rest : List String) : List String := "-c" :: "lockdesk.yml" :: rest
    let dispatch := line ["dispatch", "reserve", "board", "board"]
    let allowed := line ["allowed", "board", "board"]
    ∃ context l,
      Accepted around () dispatch context (.dispatch "reserve" ["board", "board"] false) ∧
      Accepted around () allowed context (.allowed ["board", "board"]) ∧
      Accepted around () (line ["resources"]) context .resources ∧
      readAction "reserve" = .ok .reserve ∧
      Sends around context () ["board", "board"] .reserve false ∧
      listing around context () = .ok l ∧
      (∃ r : ActionRequest, r.action = .reserve ∧ r.resources = ["board"] ∧
        (run around () dispatch).session.submitted = [r]) ∧
      ∃ bar, (run around () allowed).session.printed = [barTable ["board", "board"] bar] ∧
        ["resource_action_reserve", "[green]enabled[/]"] ∈
          BarButton.all.map (buttonRow bar) := by
  intro listed around line dispatch allowed
  let general : General := { config := some "lockdesk.yml" }
  have hboard : reservesBoard around general = true := by decide +kernel
  obtain ⟨context, s, board, hprepare, hl, hname, hallows⟩ := exists_of_reservesBoard hboard
  have hdispatch : Accepted around () dispatch context
      (.dispatch "reserve" ["board", "board"] false) :=
    ⟨general, .dispatch, ["reserve", "board", "board"], s, by decide +kernel,
      hprepare .dispatch (by decide), by decide +kernel⟩
  have hallowed : Accepted around () allowed context (.allowed ["board", "board"]) :=
    ⟨general, .allowed, ["board", "board"], s, by decide +kernel,
      hprepare .allowed (by decide), by decide +kernel⟩
  have hresources : Accepted around () (line ["resources"]) context .resources :=
    ⟨general, .resources, [], s, by decide +kernel, hprepare .resources (by decide),
      by decide +kernel⟩
  have hread : readAction "reserve" = .ok .reserve := by decide +kernel
  have hfind : find? [board] "board" = some board := by simp [find?, hname]
  have hoffered : Offered context.effective [board] ["board", "board"] .reserve := by
    simp [Offered, hfind, hallows]
  have hsends : Sends around context () ["board", "board"] .reserve false :=
    ⟨[board], hl, hoffered⟩
  obtain ⟨hdispatched, hshown⟩ := commands_gated around () context ["board", "board"]
  obtain ⟨r, haction, hresources', hsubmitted, -⟩ := hdispatched _ _ _ _ hdispatch hread
  obtain ⟨⟨bar, hprinted, hrows⟩, -⟩ := hshown _ _ _ hallowed hresources hl (by simp [hname])
  refine ⟨context, [board], hdispatch, hallowed, hresources, hread, hsends, hl,
    ⟨r, haction, hresources', hsubmitted hsends⟩, bar,
    hprinted fun _ _ => Marks.accepts_lenient _, (hrows .reserve).mpr ?_⟩
  simpa [hfind, Resource.allowedActions] using hallows

/-! ### Nothing sent, nothing shown -/

/-- Surroundings in which the configuration names an address, and grants reserving, and the server
lists one board with a note. The console refuses that note if it closes what was never opened. -/
def withBoardNoted (address note : String) : Surroundings Unit where
  environment := []
  files := Files.ofTexts [("lockdesk.yml",
    s!"server:\n  base_url: {address}\nsession:\n  permissions:\n    RESERVE: true\n")]
  transport := fun _ server =>
    let listed := "\x7b\"resources\": [\x7b\"name\": \"board\", \"note\": " ++ note ++ "\x7d]\x7d"
    (.ok (.ofText listed), server)
  console := .refusing "[/x]" "closing tag '[/x]' at position 0 doesn't match any open tag"
    (by decide)

/-- The buttons that a printed thing shows as enabled. -/
def Printed.enabled : Printed → List String
  | .table _ _ rows => rows.filterMap fun
    | [button, "[green]enabled[/]"] => some button
    | _ => none
  | _ => []

/-- Whether a run submits nothing. -/
def submitsNothing (around : Surroundings Unit) (arguments : List String) : Bool :=
  match (prepare around { config := some "lockdesk.yml" } .dispatch).run.run { server := () } with
  | (.ok _, _) => (run around () arguments).session.submitted = []
  | _ => false

/-- Whether the board may be reserved, which `allowed` shows and `resources` does not. -/
def showsBarOnly (around : Surroundings Unit) (allowed resources : List String) : Bool :=
  reservesBoard around { config := some "lockdesk.yml" } &&
    (run around () allowed).session.printed.flatMap Printed.enabled =
      ["resource_action_reserve", "resource_action_edit"] &&
    (run around () resources).session.printed.isEmpty

/-- **Not everything is sent or shown.** With `--force` nothing is submitted where no client can be
made for the address; and a listing that cannot be drawn, be it for a note that is no text or for
one with markup that the console refuses, is not shown by `resources`, though `allowed` shows the
action as enabled. -/
theorem force_submits_nothing_without_client :
    let line (rest : List String) : List String := "-c" :: "lockdesk.yml" :: rest
    (let around := withBoardNoted "http://ci:port" "\"\""
      let dispatch := line ["dispatch", "--force", "reserve", "board"]
      ∃ context, Accepted around () dispatch context (.dispatch "reserve" ["board"] true) ∧
        readAction "reserve" = .ok .reserve ∧ (run around () dispatch).session.submitted = []) ∧
    ∀ note ∈ ["5", "\"[/x]\""],
      let around := withBoardNoted "http://ci" note
      ∃ context l, Accepted around () (line ["allowed", "board"]) context (.allowed ["board"]) ∧
        Accepted around () (line ["resources"]) context .resources ∧
        listing around context () = .ok l ∧ "board" ∈ l.map Resource.name ∧
        "resource_action_reserve" ∈
          (run around () (line ["allowed", "board"])).session.printed.flatMap Printed.enabled ∧
        (run around () (line ["resources"])).session.printed = [] := by
  intro line
  let general : General := { config := some "lockdesk.yml" }
  refine ⟨?_, fun note hnote => ?_⟩
  · intro around dispatch
    have hrun : submitsNothing around dispatch = true := by decide +kernel
    rw [submitsNothing] at hrun
    split at hrun
    · next context s hprepare =>
      exact ⟨context, ⟨general, .dispatch, ["--force", "reserve", "board"], s, by decide +kernel,
        hprepare, by decide +kernel⟩, by decide +kernel, of_decide_eq_true hrun⟩
    · cases hrun
  · intro around
    have hrun : showsBarOnly around (line ["allowed", "board"]) (line ["resources"]) = true := by
      rcases List.mem_cons.mp hnote with rfl | hnote
      · decide +kernel
      · cases List.mem_singleton.mp hnote
        decide +kernel
    rw [showsBarOnly, Bool.and_eq_true, Bool.and_eq_true] at hrun
    obtain ⟨⟨hboard, hallowed⟩, hresources⟩ := hrun
    obtain ⟨context, s, board, hprepare, hl, hname, -⟩ := exists_of_reservesBoard hboard
    refine ⟨context, [board], ?_, ?_, hl, by simp [hname], ?_, List.isEmpty_iff.mp hresources⟩
    · exact ⟨general, .allowed, ["board"], s, by decide +kernel, hprepare .allowed (by decide),
        by decide +kernel⟩
    · exact ⟨general, .resources, [], s, by decide +kernel, hprepare .resources (by decide),
        by decide +kernel⟩
    · rw [of_decide_eq_true hallowed]
      exact List.mem_cons_self

end Lockable.Command
