import SchemaServer.Proofs.Bytes
import SchemaServer.Proofs.Views

/-! # A change of the configuration validates every document once

The documents that are open are validated one after the other in the order of their URIs, all against
the same texts, and each is reported before the next is looked at.  Nothing that goes wrong on the way
keeps a later document from its turn.

Each URI is read once more before its document is validated, so all this holds as long as the URIs of
open documents read as themselves. -/

namespace SchemaServer

/-- What a lint is given. -/
def Exchange.lint? : Exchange → Option (String × Snapshot)
  | ⟨.analyzer (.lint path files), _⟩ => some (path, files)
  | _ => none

namespace Session

variable {s s' : Session} {v : Validation} {validations : List Validation}
  {exchanges : List Exchange} {settings : Json}

/-! ## Validations in a row -/

theorem ValidatesAll.documents (validates : ValidatesAll s validations s') :
    s'.store.documents = s.store.documents := by
  induction validates with
  | nil => rfl
  | cons first _ ih => exact ih.trans first.documents

/-- Every validation in a row is given the texts from before the first, and reports on the version
    from before the first. -/
theorem ValidatesAll.reported (validates : ValidatesAll s validations s') (member : v ∈ validations) :
    v.files = .capture s.store ∧
      ∃ limit, v.report = v.due limit ((s.store.get? v.uri).bind Document.version) := by
  obtain ⟨s₁, s₂, documents, files, chosen, -, report⟩ := validates.each member
  rw [Snapshot.capture_congr documents] at files
  rw [Store.get?, documents] at report
  exact ⟨files, chosen.maxProblems, report⟩

theorem Validation.lints (due : ∃ limit version, v.report = v.due limit version) :
    v.exchanges.filterMap Exchange.lint? = [(pathOfUri v.uri, v.files)] := by
  obtain ⟨limit, version, report⟩ := due
  have silent : v.report.lint? = none := by
    rw [report]
    unfold Validation.due
    cases v.outcome <;> rfl
  have fetched : ∀ fetched? : Option Client.Fetched,
      (fetched?.map fun answer => (⟨.client (.fetchSettings v.uri), answer⟩ : Exchange)).toList.filterMap
        Exchange.lint? = [] := by
    rintro (_ | _) <;> rfl
  have given : Exchange.lint? ⟨.analyzer (.lint (pathOfUri v.uri) v.files), v.answer⟩ =
    some (pathOfUri v.uri, v.files) := rfl
  rw [Validation.exchanges, List.filterMap_append, fetched, List.nil_append,
    List.filterMap_cons_some given, List.filterMap_cons_none silent, List.filterMap_nil]

theorem lints_of_validations {files : Snapshot}
    (each : ∀ v ∈ validations, v.files = files ∧ ∃ limit version, v.report = v.due limit version) :
    (validations.flatMap Validation.exchanges).filterMap Exchange.lint? =
      validations.map fun v => (pathOfUri v.uri, files) := by
  induction validations with
  | nil => rfl
  | cons v later ih =>
    obtain ⟨shared, due⟩ := each v List.mem_cons_self
    rw [List.flatMap_cons, List.filterMap_append, v.lints due, shared, List.map_cons,
      ih fun v member => each v (List.mem_cons_of_mem _ member)]
    rfl

/-! ## The change -/

theorem documents_configured (settings : Json) (s : Session) :
    (s.configured settings).store.documents = s.store.documents := by
  unfold configured
  split <;> rfl

/-- What is asked when the configuration changes: after a note, for each open document in the order of
    the URIs, its settings if they have to be fetched, a lint with the texts from before the change,
    and then its report. -/
structure Revalidates (s : Session) (exchanges : List Exchange) (s' : Session) : Prop where
  listed : ∀ uri, uri ∈ s.store.uris ↔ s.store.contains uri = true
  increasing : s.store.uris.Pairwise fun a b => Utf8.encode a < Utf8.encode b
  lints : exchanges.filterMap Exchange.lint? =
    s.store.uris.map fun uri => (pathOfUri uri, .capture s.store)
  turns : ∃ validations : List Validation, validations.map Validation.uri = s.store.uris ∧
    exchanges = ⟨.client (.log .info "Configuration changed."), ()⟩ ::
      validations.flatMap Validation.exchanges ∧
    ∀ v ∈ validations, v.files = .capture s.store ∧
      ∃ limit, v.report = v.due limit ((s.store.get? v.uri).bind Document.version)
  documents : s'.store.documents = s.store.documents

theorem revalidates_of_runs (rereads : ∀ uri ∈ s.store.uris, Url.Rereads uri)
    (run : (s.handle (.configurationChanged settings)).Runs exchanges ((), s')) :
    Revalidates s exchanges s' := by
  obtain ⟨_, _, s₁, rfl, changed, rest⟩ := Program.runs_bind_iff.1 run
  obtain ⟨rfl, same⟩ := Program.runs_done_iff.1 rest
  cases same
  obtain ⟨validations, handles, rfl⟩ := handles_of_changeConfiguration changed
  rw [List.append_nil]
  cases handles with
  | passing passing _ => cases passing
  | configured validates uris =>
    rw [Url.filterMap_reread? rereads] at uris
    have documents := documents_configured settings s
    have each : ∀ v ∈ validations, v.files = .capture s.store ∧
        ∃ limit, v.report = v.due limit ((s.store.get? v.uri).bind Document.version) := by
      intro v member
      have reported := validates.reported member
      rwa [Snapshot.capture_congr documents, Store.get?, documents] at reported
    refine ⟨fun _ => Store.mem_uris_iff, ?_, ?_, ?_, ?_⟩
    · exact s.store.documents.keys_sorted.imp Utf8.encode_lt_encode
    · have lints := lints_of_validations fun v member =>
        ⟨(each v member).1, (each v member).2.imp fun _ report => ⟨_, report⟩⟩
      have noted : Exchange.lint? ⟨.client (.log .info "Configuration changed."), ()⟩ = none := rfl
      rw [List.filterMap_cons_none noted, lints, ← uris, List.map_map]
      rfl
    · exact ⟨validations, uris, rfl, each⟩
    · exact validates.documents.trans documents

/-- However the analyzer and the editor answer, a change of the configuration is followed by one
    validation of every open document, if the URIs of these documents read as themselves. -/
theorem configuration_change_revalidates (s : Session)
    (rereads : ∀ uri ∈ s.store.uris, Url.Rereads uri) (settings : Json) {σ : Type}
    (answer : (question : Question) → StateM σ question.Answer) (state : σ) :
    Revalidates s ((s.handle (.configurationChanged settings)).transcript answer state)
      ((s.handle (.configurationChanged settings)).run answer state).1.2 :=
  revalidates_of_runs rereads
    (Program.runs_transcript answer (s.handle (.configurationChanged settings)) state)

/-- An analyzer that fails the first lint only. -/
def stumbling : (question : Question) → StateM Nat question.Answer
  | .analyzer (.lint _ _) => fun asked =>
    (if asked = 0 then .error (.failed .lint "busy") else .ok "[]", asked + 1)
  | question => fun asked => ((Program.outage question ()).1, asked)

/-- Two documents are open, and the one that was opened first comes second. -/
def pair : Session where
  stdPath := "/std"
  store := (Store.empty.openDocument "file:///b.teo" "two" 1).openDocument "file:///a%20.teo" "one" 1

theorem configuration_change_revalidates_stumbling :
    (∀ uri ∈ pair.store.uris, Url.Rereads uri) ∧
    ((pair.handle (.configurationChanged .null)).transcript stumbling 0).filterMap Exchange.lint? =
      [("/a%20.teo", .capture pair.store), ("/b.teo", .capture pair.store)] := by
  have uris : pair.store.uris = ["file:///a%20.teo", "file:///b.teo"] := rfl
  have rereads : ∀ uri ∈ pair.store.uris, Url.Rereads uri := by
    intro uri member
    simp only [uris, List.mem_cons, List.not_mem_nil, or_false] at member
    rcases member with rfl | rfl
    · exact ⟨_, rfl, rfl⟩
    · exact ⟨_, rfl, rfl⟩
  exact ⟨rereads, (configuration_change_revalidates pair rereads .null stumbling 0).lints⟩

end Session

end SchemaServer
