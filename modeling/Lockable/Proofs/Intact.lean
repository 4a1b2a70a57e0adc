import Lockable.Proofs.Address
import Lockable.Proofs.Integration

/-!
# Names and notes arrive intact

A name is written into the address of a request, and a note into its body. However they are spelt,
the server reads them as they were given (`Client.texts_arrive_intact`): no name leads to another
page or makes another field, and the form for a note is fetched for the resource whose note is then
saved.

What is sent first is known exactly: the POST of an errand is sent if the crumb is known, fits into
the form, and the page has an address (`Client.firstPost?_errand`).

A base is an address without a query. Where it has one, a page is put behind the query, and so there
is no path below the base.
-/

namespace Lockable.Client

open Http (Request Trail Originates)

variable {σ α β : Type} {transport : Http.Transport σ} {c c₀ : Client σ}

/-! ### What is sent first -/

/-- What a service sends. -/
def sentBy (transport : Http.Transport σ) (c : Client σ) (s : Service) : List Request :=
  (c.call (s.call transport)).2.wire.sent.drop c.wire.sent.length

/-- The first POST that is sent. -/
def firstPost? (sent : List Request) : Option Request := sent.find? fun r => r.method = .post

theorem sentBy_eq {s : Service} {sent : List Request}
    (h : (c.call (s.call transport)).2.wire.sent = c.wire.sent ++ sent) :
    sentBy transport c s = sent := by
  rw [sentBy, h, List.drop_left]

theorem head?_of_originates {r? : Option Request} {sent : List Request}
    (h : Originates r? sent) : sent.head? = r? := by
  cases h with
  | nothing => rfl
  | trail h => cases h <;> rfl

theorem method_of_request? {q : Errand} {k : Option Crumb} {r : Request}
    (h : q.request? c k = some r) : r.method = .post := by
  obtain ⟨form, -, h⟩ := Option.bind_eq_some_iff.mp h
  rw [formRequest?] at h
  split at h
  · cases h
    rfl
  · cases h

/-- Behind requests that ask, the first POST is the one that what is sent originates in. -/
theorem firstPost?_append {asked sent : List Request} {q : Errand} {k : Option Crumb}
    (hasked : ∀ r ∈ asked, r.method = .get) (h : Originates (q.request? c k) sent) :
    firstPost? (asked ++ sent) = q.request? c k := by
  have hnone : asked.find? (fun r => r.method = .post) = none := by
    refine List.find?_eq_none.mpr fun r hr => ?_
    rw [hasked r hr]
    decide
  rw [firstPost?, List.find?_append, hnone, Option.none_or]
  have hhead := head?_of_originates h
  generalize hr? : q.request? c k = r? at h hhead
  cases h with
  | nothing => rfl
  | @trail r _ h =>
    have hr : decide (r.method = .post) = true := decide_eq_true (method_of_request? hr?)
    cases h <;> exact List.find?_cons_of_pos hr

/-- How an errand begins: the issuer is asked if need be, which takes nothing but GETs, and if the
crumb is then known the errand goes on. -/
theorem call_errand_cases (transport : Http.Transport σ) (c : Client σ) (q : Errand) :
    ∃ c' asked, SamePlace c' c ∧ (∀ r ∈ asked, r.method = .get) ∧
      c'.wire.sent = c.wire.sent ++ asked ∧
      match c.crumb.or (inquiry transport c).definitive? with
      | some k => c.call (q.call transport) = c'.call (q.rest transport k)
      | none => ∃ e, c.call (q.call transport) = (.error e, c') := by
  have hplace : SamePlace (q.noted c) c := q.samePlace_noted c
  rcases hcrumb : c.crumb with _ | k
  · obtain ⟨c', asked, hasks, hsent, -, hask⟩ :=
      call_askCrumb_of_unknown transport ((q.crumb_noted c).trans hcrumb)
    have hstays : SamePlace c' (q.noted c) := by
      have hkept := samePlace_askCrumb transport (q.noted c)
      rcases hask with ⟨k, -, hask⟩ | ⟨-, e, -, hask⟩ <;> rwa [hask] at hkept
    rw [q.inquiry_noted] at hask
    rw [q.wire_noted] at hsent
    refine ⟨c', asked, hstays.trans hplace, hasks.method_get, hsent, ?_⟩
    obtain ⟨k, hk, hask⟩ | ⟨hnone, e, -, hask⟩ := hask
    · rw [Option.none_or, hk]
      dsimp only
      rw [q.call_call, call_bind, hask]
    · rw [Option.none_or, hnone]
      exact ⟨e, by rw [q.call_call, call_bind, hask]⟩
  · refine ⟨q.noted c, [], hplace, nofun, ?_, ?_⟩
    · rw [q.wire_noted, List.append_nil]
    · rw [Option.some_or]
      dsimp only
      rw [q.call_call, call_bind, call_askCrumb_of_known ((q.crumb_noted c).trans hcrumb)]

theorem request?_of_samePlace {c' : Client σ} (h : SamePlace c' c) (q : Errand)
    (k : Option Crumb) : q.request? c' k = q.request? c k := by
  simp only [Errand.request?, formRequest?, h.address_eq, h.settings]

/-- **The first POST of an errand**: its form with the crumb, where the crumb is known, be it from
before or since the issuer was asked. -/
theorem firstPost?_errand (transport : Http.Transport σ) (c : Client σ) (q : Errand) :
    firstPost? (sentBy transport c (.errand q)) =
      (c.crumb.or (inquiry transport c).definitive?).bind fun k => q.request? c k := by
  obtain ⟨c', asked, hplace, hget, hasked, hcall⟩ := call_errand_cases transport c q
  rcases hknown : c.crumb.or (inquiry transport c).definitive? with _ | k
  · rw [hknown] at hcall
    obtain ⟨e, hcall⟩ := hcall
    have hsent : sentBy transport c (.errand q) = asked ++ [] :=
      sentBy_eq (by rw [Service.call, hcall, hasked, List.append_nil])
    rw [hsent]
    exact firstPost?_append (c := c) (q := .crumb) (k := none) hget .nothing
  · rw [hknown] at hcall
    obtain ⟨sent, horiginates, hsent, -⟩ := q.originates_rest transport k c'
    rw [← hcall, hasked, List.append_assoc] at hsent
    rw [sentBy_eq (s := .errand q) hsent, firstPost?_append hget horiginates,
      request?_of_samePlace hplace]
    rfl

/-- **What fetching the form for a note sends first** is the request of its page. -/
theorem head?_sentBy_noteForm (transport : Http.Transport σ) (c : Client σ) (name : String) :
    (sentBy transport c (.noteForm name)).head? =
      (noteFormPlace c name).toOption.map (getRequest c.settings) := by
  have hquiet (found : Http.Reply × Url) :
      Keeps (fun c : Client σ => c.wire.sent)
        (liftM (formOfReply c.reading name found.1 found.2) : Call σ String) := .liftM _
  have hcall : ((c.call ((Service.noteForm name).call transport)).2.wire.sent) =
      (c.call (liftM (noteFormPlace c name) >>= fun u =>
        send transport (noForm name) (getRequest c.settings u) >>= fun found =>
          liftM (formOfReply c.reading name found.1 found.2))).2.wire.sent := by
    rw [Service.call, snd_call_bind_pure, call_fetchNoteForm]
  rw [call_bind, call_liftM] at hcall
  rcases hplace : noteFormPlace c name with e | u
  · rw [hplace] at hcall
    have hsent : sentBy transport c (.noteForm name) = [] :=
      sentBy_eq (hcall.trans (List.append_nil _).symm)
    rw [hsent]
    rfl
  · rw [hplace] at hcall
    obtain ⟨sent, htrail, hsent⟩ :=
      Http.Wire.exists_trail_exchange transport (getRequest c.settings u) c.wire
    dsimp only at hcall
    rw [Keeps.snd_call_bind (f := fun c : Client σ => c.wire.sent) hquiet, call_send,
      hsent] at hcall
    rw [sentBy_eq hcall]
    exact head?_of_originates (.trail htrail)

/-! ### Where it leads -/

/-- The root of the resources, without the slashes around it. -/
def root (settings : ServerSettings) : String :=
  String.ofList (Text.trimWhile (· = '/') settings.rootPath.toList)

/-- The path of a page below the base. -/
def pathBelow (settings : ServerSettings) (page : String) : String :=
  if root settings = "" then page else root settings ++ "/" ++ page

/-- The root has no special characters: all of it is as a path shows it. -/
structure HasPlainRoot (settings : ServerSettings) : Prop where
  isPathSafe_of_mem : ∀ c ∈ (root settings).toList, Url.isPathSafe c = true
  noDots : Url.NoDots (root settings).toList

instance (settings : ServerSettings) : Decidable (HasPlainRoot settings) :=
  decidable_of_iff ((root settings).toList.all Url.isPathSafe = true ∧
      Url.NoDots (root settings).toList)
    ⟨fun ⟨hsafe, hdots⟩ => ⟨List.all_eq_true.mp hsafe, hdots⟩,
      fun h => ⟨List.all_eq_true.mpr h.isPathSafe_of_mem, h.noDots⟩⟩

theorem page_targetText (settings : ServerSettings) (last : String) (query : Option String) :
    page settings (Url.targetText last query) =
      Url.targetText ("/" ++ pathBelow settings last) query := by
  have hpage : page settings (Url.targetText last query) = if root settings = "" then
      "/" ++ Url.targetText last query
    else "/" ++ root settings ++ "/" ++ Url.targetText last query := rfl
  rw [hpage, pathBelow, ← String.toList_inj]
  split <;> simp only [String.toList_append, Url.toList_targetText, List.append_assoc]

/-- The root is trimmed, so it does not begin with a slash. -/
theorem head?_root_ne (settings : ServerSettings) : (root settings).toList.head? ≠ some '/' := by
  intro hslash
  rw [root, String.toList_ofList, Text.trimWhile, Text.dropEndWhile] at hslash
  generalize hrest : settings.rootPath.toList.dropWhile (· = '/') = rest at hslash
  obtain ⟨back, hback⟩ := List.dropWhile_suffix (fun c => decide (c = '/')) (l := rest.reverse)
  have hfront : rest = (rest.reverse.dropWhile (· = '/')).reverse ++ back.reverse := by
    rw [← List.reverse_append, hback, List.reverse_reverse]
  have hhead : rest.head? = some '/' := by
    rw [hfront, List.head?_append, hslash]
    rfl
  have hstop := List.head?_dropWhile_not (fun c => decide (c = '/')) settings.rootPath.toList
  rw [hrest, hhead] at hstop
  exact absurd hstop (by decide)

theorem isPage_pathBelow {settings : ServerSettings} (h : HasPlainRoot settings) {last : String}
    (hlast : Url.IsPage last) : Url.IsPage (pathBelow settings last) := by
  rw [pathBelow]
  split
  · exact hlast
  · next hroot =>
    have hchars : (root settings ++ "/" ++ last).toList =
        (root settings).toList ++ '/' :: last.toList := by
      simp
    refine ⟨by simp, ?_, ?_, ?_⟩
    · have hslash := head?_root_ne settings
      rw [hchars]
      rcases hroot' : (root settings).toList with _ | ⟨c, cs⟩
      · exact absurd (String.toList_eq_nil_iff.mp hroot') hroot
      · rwa [hroot'] at hslash
    · rw [hchars]
      exact List.forall_mem_append.mpr ⟨h.isPathSafe_of_mem,
        List.forall_mem_cons.mpr ⟨by decide, hlast.isPathSafe_of_mem⟩⟩
    · rw [hchars]
      exact Url.noDots_append_slash_iff.mpr ⟨h.noDots, hlast.noDots⟩

/-- The address leads to a page below the root of a base, and there the server reads these fields.
-/
structure Leads (base : Url) (settings : ServerSettings) (last : String)
    (fields : List (String × String)) (u : Url) : Prop where
  path_eq : u.path = base.directoryPath ++ pathBelow settings last
  fields_eq : u.query.map Percent.readForm = some fields

section

variable {settings : ServerSettings} {server : σ} {reading : Http.Reading} {base u : Url}
  {last : String}
  {f : String × String}

/-- The directory of a new client is that of its base. -/
theorem directory_of_start (hstart : start settings server reading = .ok c₀)
    (hplace : SamePlace c c₀) (hbase : Url.parse settings.baseUrl = .ok base) :
    c.settings = settings ∧ base.directory = .ok c.directory := by
  rw [start, hbase] at hstart
  split at hstart
  · next d hd =>
    cases hstart
    exact ⟨hplace.settings, hplace.directory ▸ hd⟩
  · cases hstart

variable (hstart : start settings server reading = .ok c₀) (hplace : SamePlace c c₀)
  (hbase : Url.parse settings.baseUrl = .ok base) (hquery : base.query = none)
  (hroot : HasPlainRoot settings)

include hstart hplace hbase hquery hroot

/-- The address of a page below the root. -/
theorem address_page {query : Option String} (hlast : Url.IsPage last)
    (hsafe : ∀ q ∈ query, ∀ c ∈ q.toList, Url.isQuerySafe c = true)
    (h : c.address (page c.settings (Url.targetText last query)) = .ok u) :
    u.IsSettled ∧ u.path = base.directoryPath ++ pathBelow settings last ∧ u.query = query := by
  obtain ⟨hsettings, hdirectory⟩ := directory_of_start hstart hplace hbase
  obtain ⟨hsettled, htarget, hnone⟩ :=
    Url.directory_eq (Url.isSettled_of_parse hbase) hquery hdirectory
  rw [hsettings, page_targetText, address] at h
  split at h
  · next hextend =>
    cases h
    rw [← htarget]
    exact Url.extend_page hsettled hnone (htarget ▸ base.getLast?_directoryPath)
      (isPage_pathBelow hroot hlast) hsafe hextend
  · cases h

/-- A field in writing behind the path of a page. -/
theorem leads_of_writes {w : String} (hlast : Url.IsPage last) (hw : Percent.Writes w f)
    (h : c.address (page c.settings (last ++ "?" ++ w)) = .ok u) :
    Leads base settings last [f] u := by
  have htext : last ++ "?" ++ w = Url.targetText last (some w) := String.append_assoc
  have hsafe : ∀ q ∈ some w, ∀ c ∈ q.toList, Url.isQuerySafe c = true := by
    rintro _ ⟨⟩ c hc
    exact Url.isQuerySafe_of_writes hw hc
  rw [htext] at h
  obtain ⟨-, hpath, hq⟩ := address_page hstart hplace hbase hquery hroot hlast hsafe h
  exact ⟨hpath, by rw [hq, Option.map_some, Percent.readForm_of_writes hw]⟩

/-- The page of the form for a note has the name of the resource in its query. -/
theorem leads_of_noteFormPlace {name : String} (h : noteFormPlace c name = .ok u) :
    Leads base settings "noteForm" [("resource", name)] u := by
  obtain ⟨u', haddress, hform⟩ := exists_of_bind_eq_ok h
  have htext : "noteForm" = Url.targetText "noteForm" none := String.append_empty.symm
  have hlast : Url.IsPage "noteForm" := by decide
  rw [htext] at haddress
  have hnone : ∀ q ∈ (none : Option String), ∀ c ∈ q.toList, Url.isQuerySafe c = true := nofun
  obtain ⟨hsettled, hpath, -⟩ :=
    address_page hstart hplace hbase hquery hroot hlast hnone haddress
  split at hform
  · next hwith =>
    cases hform
    obtain ⟨hsame, hq⟩ := Url.withForm_eq hsettled hwith
    have hwrites := Percent.writes_form ("resource", name)
    have hsafe : ∀ c ∈ (Percent.encodeForm "resource" ++ "=" ++ Percent.encodeForm name).toList,
        Url.isQuerySafe c = true := fun c hc => Url.isQuerySafe_of_writes hwrites hc
    refine ⟨hsame.trans hpath, ?_⟩
    rw [hq, List.map_singleton, String.intercalate_singleton, Url.encode_of_safe hsafe,
      Option.map_some, Percent.readForm_of_writes hwrites]
  · cases hform

end

/-! ### What arrives -/

theorem isPage_endpoint (a : RowAction) : Url.IsPage a.endpoint := by
  cases a <;> decide

/-- An action is submitted under one field, which is in writing. -/
theorem writes_query (r : ActionRequest) : Percent.Writes r.query r.field := by
  have hquery : r.query = r.field.1 ++ "=" ++ Percent.encodeComponent r.field.2 := by
    simp [ActionRequest.query, ActionRequest.formFields]
  have hname : r.field.1.toList.all Percent.isUnreserved = true := by
    rw [ActionRequest.field]
    split
    · show "resource".toList.all Percent.isUnreserved = true
      decide
    · show "resources".toList.all Percent.isUnreserved = true
      decide
  rw [hquery]
  exact Percent.writes_component hname r.field.2

/-- **A form is read back**: every value of a field under its name. -/
theorem readForm_formBody (form : List (String × Json)) :
    Percent.readForm (formBody form) =
      form.flatMap fun f => (formTexts f.2).map fun v => (f.1, v) := by
  have hread := Percent.readForm_intercalate _ id
    (l := form.flatMap fun f => (formTexts f.2).map fun v => (f.1, v))
    fun f _ => Percent.writes_form f
  rwa [List.map_id] at hread

/-- The crumb takes the field of its name. -/
theorem eq_insert_of_addCrumb {fields form : List (String × Json)} {crumb : Crumb}
    (h : addCrumb fields (some crumb) = .ok form) :
    form = Keyed.insert crumb.field.display crumb.value fields := by
  rw [addCrumb] at h
  split at h
  · cases h
  · cases h
  · exact (Except.ok.inj h).symm

/-- A note is read back from its form, if the crumb has another field. -/
theorem readForm_note {note : String} {form : List (String × Json)} {k : Option Crumb}
    (hform : addCrumb [("note", .text note)] k = .ok form)
    (hk : ∀ crumb ∈ k, crumb.field.display ≠ "note") :
    (Percent.readForm (formBody form)).filter (·.1 = "note") = [("note", note)] := by
  have hnote : (formTexts (.text note)).map (fun v => ("note", v)) = [("note", note)] := rfl
  rw [readForm_formBody]
  cases k with
  | none =>
    cases hform
    rw [List.flatMap_singleton, hnote]
    rfl
  | some crumb =>
    have hother : crumb.field.display ≠ "note" := hk crumb rfl
    have hnew : crumb.field.display ∉ [("note", Json.text note)].map Prod.fst := by
      simpa using hother
    have hnone : ((formTexts crumb.value).map fun v => (crumb.field.display, v)).filter
        (·.1 = "note") = [] := by
      simp [hother]
    rw [eq_insert_of_addCrumb hform, Keyed.insert_of_notMem hnew, List.flatMap_append,
      List.flatMap_singleton, List.flatMap_singleton, hnote, List.filter_append, hnone]
    rfl

/-- A first POST is the form of the errand, at the address of its page. -/
theorem exists_of_firstPost? {q : Errand} {p : Request}
    (h : firstPost? (sentBy transport c (.errand q)) = some p) :
    ∃ path fields k form, q.form? = some (path, fields) ∧
      c.crumb.or (inquiry transport c).definitive? = some k ∧ addCrumb fields k = .ok form ∧
      c.address (page c.settings path) = .ok p.url ∧ p.body = formBody form := by
  rw [firstPost?_errand] at h
  obtain ⟨k, hk, h⟩ := Option.bind_eq_some_iff.mp h
  obtain ⟨⟨path, fields⟩, hq, h⟩ := Option.bind_eq_some_iff.mp h
  rw [formRequest?] at h
  split at h
  · next form u hform hu _ =>
    cases h
    exact ⟨path, fields, k, form, hq, hk, hform, hu, rfl⟩
  · cases h

/-- **Names and notes arrive intact.** Let a client be in the place of a new one whose base has no
query and whose root has no special characters. However the names and the note are spelt, and
whatever the server does:

* the first POST of an action leads to the endpoint of the action, where its one field is read;
* the first POST that saves a note leads to the page for that, where the name of the resource is
  read and, if the crumb is sent in another field, the note from the body;
* the first request for the form for a note is a GET and leads to the page of the form, where the
  name of the resource is read.

No other field is read from these addresses. -/
theorem texts_arrive_intact (transport : Http.Transport σ) {settings : ServerSettings} {server : σ}
    {reading : Http.Reading} {base : Url} (hstart : start settings server reading = .ok c₀)
    (hplace : SamePlace c c₀) (hbase : Url.parse settings.baseUrl = .ok base)
    (hquery : base.query = none) (hroot : HasPlainRoot settings) :
    (∀ r p, firstPost? (sentBy transport c (.errand (.submit r))) = some p →
      Leads base settings r.action.endpoint r.formFields p.url) ∧
    (∀ name note p, firstPost? (sentBy transport c (.errand (.saveNote name note))) = some p →
      Leads base settings "saveNote" [("resource", name)] p.url ∧
      ∀ k, c.crumb.or (inquiry transport c).definitive? = some k →
        (∀ crumb ∈ k, crumb.field.display ≠ "note") →
        (Percent.readForm p.body).filter (·.1 = "note") = [("note", note)]) ∧
    ∀ name p, (sentBy transport c (.noteForm name)).head? = some p →
      p.method = .get ∧ Leads base settings "noteForm" [("resource", name)] p.url := by
  refine ⟨fun r p hp => ?_, fun name note p hp => ?_, fun name p hp => ?_⟩
  · obtain ⟨path, fields, k, form, hform, -, -, haddress, -⟩ := exists_of_firstPost? hp
    cases hform
    exact leads_of_writes hstart hplace hbase hquery hroot (isPage_endpoint r.action)
      (writes_query r) haddress
  · obtain ⟨path, fields, k, form, hform, hk, hcrumb, haddress, hbody⟩ := exists_of_firstPost? hp
    cases hform
    refine ⟨?_, fun k' hk' hother => ?_⟩
    · have htext : "saveNote?resource=" ++ Percent.encodeComponent name =
          "saveNote" ++ "?" ++ ("resource" ++ "=" ++ Percent.encodeComponent name) := by
        simp [← String.toList_inj]
      rw [htext] at haddress
      exact leads_of_writes hstart hplace hbase hquery hroot (by decide)
        (Percent.writes_component (by decide) name) haddress
    · cases hk.symm.trans hk'
      rw [hbody]
      exact readForm_note hcrumb hother
  · rw [head?_sentBy_noteForm] at hp
    rcases hform : noteFormPlace c name with e | u
    · rw [hform] at hp
      cases hp
    · rw [hform] at hp
      cases hp
      exact ⟨rfl, leads_of_noteFormPlace hstart hplace hbase hquery hroot hform⟩

/-- A note that is hard to spell is saved for a resource whose name is, below a base with a path. -/
theorem texts_arrive_intact_marks :
    let settings : ServerSettings := { baseUrl := "http://ci/jenkins" }
    let transport : Http.Transport Unit := fun _ server => (.ok { status := 404 }, server)
    let name := "a&b=c+d%26#?/\x7b é"
    let note := "1 + 1 = 2 & more\n"
    ∃ c₀ base p, start settings () = .ok c₀ ∧ Url.parse settings.baseUrl = .ok base ∧
      firstPost? (sentBy transport c₀ (.errand (.saveNote name note))) = some p ∧
      Leads base settings "saveNote" [("resource", name)] p.url ∧
      base.directoryPath = "/jenkins/" ∧
      (Percent.readForm p.body).filter (·.1 = "note") = [("note", note)] := by
  intro settings transport name note
  have hparse : (do
      let base ← Url.parse settings.baseUrl
      return (base.query, base.directoryPath) : Except Url.Fault _) = .ok (none, "/jenkins/") := by
    decide +kernel
  have hrun : (do
      let c₀ ← start settings ()
      let posted := firstPost? (sentBy transport c₀ (.errand (.saveNote name note)))
      return (posted.isSome, (c₀.crumb.or (inquiry transport c₀).definitive?).map (·.isNone)) :
        Except Failure _) = .ok (true, some true) := by
    decide +kernel
  have hroot : HasPlainRoot settings := by decide +kernel
  obtain ⟨base, hbase, hparse⟩ := exists_of_bind_eq_ok hparse
  obtain ⟨hquery, hdirectory⟩ := Prod.ext_iff.mp (Except.ok.inj hparse)
  obtain ⟨c₀, hstart, hrun⟩ := exists_of_bind_eq_ok hrun
  obtain ⟨hposted, hknown⟩ := Prod.ext_iff.mp (Except.ok.inj hrun)
  obtain ⟨p, hp⟩ := Option.isSome_iff_exists.mp hposted
  obtain ⟨k, hk, hnone⟩ := Option.map_eq_some_iff.mp hknown
  obtain ⟨-, hsaved, -⟩ := texts_arrive_intact transport hstart ⟨rfl, rfl⟩ hbase hquery hroot
  obtain ⟨hleads, hnote⟩ := hsaved name note p hp
  refine ⟨c₀, base, p, hstart, hbase, hp, hleads, hdirectory, hnote k hk ?_⟩
  rw [Option.isNone_iff_eq_none.mp hnone]
  nofun

end Lockable.Client
