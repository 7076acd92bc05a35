import Mathlib.Control.Monad.Basic
import Verdict.Command.Run
import Verdict.Document.Reader

/-! Context files that cannot be used, whatever reads the documents in them. Most are refused as
such, with a message and a status; what escapes instead are the errors of a path that cannot be
followed and whatever a reader raises besides calling a text malformed. -/

namespace Verdict

namespace ContextFile

variable {read : DocumentReader} {p : Path} {target : Target} {f : Fault}

/-! ### What can become of a path -/

/-- The text of a document in a file. -/
def Holds (target : Target) (text : List Point) : Prop :=
  ∃ bytes decoded, target = .found (.ok bytes) ∧ Text.decodeUtf8 0 bytes = .ok decoded ∧
    text = unifyLines decoded

/-- Such a path gives a mapping. -/
inductive Gives (read : DocumentReader) (target : Target) : List (Datum × Datum) → Prop
  | empty {text : List Point} (h : Holds target text) (hread : read text = .ok .null) :
      Gives read target []
  | mapping {text : List Point} {entries : List (Datum × Datum)} (h : Holds target text)
      (hread : read text = .ok (.mapping entries)) : Gives read target entries

/-- Such a path is refused as a context file. -/
inductive Refused (read : DocumentReader) (p : Path) : Target → ContextFileError → Prop
  | missing {e : SystemError} (h : e.leadsNowhere = true) : Refused read p (.failed e) .missing
  | unreadable (e : SystemError) :
      Refused read p (.found (.error e)) (.unreadable (e.message p.text))
  | undecodable {bytes : List UInt8} {e : Text.Utf8Error}
      (h : Text.decodeUtf8 0 bytes = .error e) :
      Refused read p (.found (.ok bytes)) (.unreadable e.message)
  | malformed {target : Target} {text : List Point} {problem : Text} (h : Holds target text)
      (hread : read text = .error (.malformed problem)) : Refused read p target (.malformed problem)
  | notMapping {target : Target} {text : List Point} {d : Datum} (h : Holds target text)
      (hread : read text = .ok d) (hnull : d ≠ .null) (hmapping : ∀ entries, d ≠ .mapping entries) :
      Refused read p target .notMapping

/-- What comes out of a path as a fault that is none of a context file. -/
inductive Escapes (read : DocumentReader) (p : Path) : Target → Fault → Prop
  | path {e : SystemError} (h : e.leadsNowhere = false) :
      Escapes read p (.failed e) (.system p.text e)
  | document {target : Target} {text : List Point} {title message : Text} (h : Holds target text)
      (hread : read text = .error (.raised title message)) :
      Escapes read p target (.raised title message)

/-! ### What loading makes of it -/

theorem load_of_holds {text : List Point} (h : Holds target text) :
    load read p target = entriesOf read p.text text := by
  obtain ⟨bytes, decoded, rfl, hdecode, rfl⟩ := h
  rw [load, hdecode]

theorem Gives.load_eq {entries : List (Datum × Datum)} (h : Gives read target entries) :
    load read p target = .ok entries := by
  cases h with
  | empty h hread => rw [load_of_holds h, entriesOf, hread]
  | mapping h hread => rw [load_of_holds h, entriesOf, hread]

theorem Refused.load_eq {e : ContextFileError} (h : Refused read p target e) :
    load read p target = .error (.contextFile p.text e) := by
  cases h with
  | missing h => rw [load, h]; rfl
  | unreadable e => rfl
  | undecodable h => rw [load, h]
  | malformed h hread => rw [load_of_holds h, entriesOf, hread]
  | @notMapping _ _ d h hread hnull hmapping =>
    rw [load_of_holds h, entriesOf, hread]
    cases d with
    | null => exact absurd rfl hnull
    | mapping entries => exact absurd rfl (hmapping entries)
    | _ => rfl

theorem Escapes.load_eq (h : Escapes read p target f) : load read p target = .error f := by
  cases h with
  | path h => rw [load, h]; rfl
  | document h hread => rw [load_of_holds h, entriesOf, hread]

theorem Escapes.ne_contextFile (h : Escapes read p target f) (path : Text)
    (e : ContextFileError) : f ≠ .contextFile path e := by
  cases h <;> exact Fault.noConfusion

/-- One of the three becomes of every path. -/
theorem gives_or_refused_or_escapes (read : DocumentReader) (p : Path) (target : Target) :
    (∃ entries, Gives read target entries) ∨ (∃ e, Refused read p target e) ∨
      ∃ f, Escapes read p target f := by
  cases target with
  | failed e =>
    cases h : e.leadsNowhere with
    | true => exact .inr (.inl ⟨_, .missing h⟩)
    | false => exact .inr (.inr ⟨_, .path h⟩)
  | found content =>
    cases content with
    | error e => exact .inr (.inl ⟨_, .unreadable e⟩)
    | ok bytes =>
      cases hdecode : Text.decodeUtf8 0 bytes with
      | error e => exact .inr (.inl ⟨_, .undecodable hdecode⟩)
      | ok decoded =>
        have hholds : Holds (.found (.ok bytes)) (unifyLines decoded) := ⟨_, _, rfl, hdecode, rfl⟩
        rcases hread : read (unifyLines decoded) with (problem | ⟨title, message⟩) | d
        · exact .inr (.inl ⟨_, .malformed hholds hread⟩)
        · exact .inr (.inr ⟨_, .document hholds hread⟩)
        · cases d with
          | null => exact .inl ⟨_, .empty hholds hread⟩
          | mapping entries => exact .inl ⟨_, .mapping hholds hread⟩
          | _ => exact .inr (.inl ⟨_, .notMapping hholds hread (by simp) (by simp)⟩)

theorem load_eq_ok_iff {entries : List (Datum × Datum)} :
    load read p target = .ok entries ↔ Gives read target entries := by
  refine ⟨fun h => ?_, Gives.load_eq⟩
  rcases gives_or_refused_or_escapes read p target with ⟨_, h'⟩ | ⟨_, h'⟩ | ⟨_, h'⟩
  · obtain rfl := Except.ok.inj (h'.load_eq.symm.trans h)
    exact h'
  · cases h'.load_eq.symm.trans h
  · cases h'.load_eq.symm.trans h

theorem load_eq_refused_iff {path : Text} {e : ContextFileError} :
    load read p target = .error (.contextFile path e) ↔
      path = p.text ∧ Refused read p target e := by
  constructor
  · intro h
    rcases gives_or_refused_or_escapes read p target with ⟨_, h'⟩ | ⟨_, h'⟩ | ⟨_, h'⟩
    · cases h'.load_eq.symm.trans h
    · obtain ⟨rfl, rfl⟩ := Fault.contextFile.inj (Except.error.inj (h'.load_eq.symm.trans h))
      exact ⟨rfl, h'⟩
    · exact absurd (Except.error.inj (h'.load_eq.symm.trans h)) (h'.ne_contextFile path e)
  · rintro ⟨rfl, h⟩
    exact h.load_eq

theorem load_escapes_iff : (load read p target = .error f ∧ ∀ path e, f ≠ .contextFile path e) ↔
    Escapes read p target f := by
  refine ⟨fun ⟨h, hf⟩ => ?_, fun h => ⟨h.load_eq, h.ne_contextFile⟩⟩
  rcases gives_or_refused_or_escapes read p target with ⟨_, h'⟩ | ⟨_, h'⟩ | ⟨_, h'⟩
  · cases h'.load_eq.symm.trans h
  · exact absurd (Except.error.inj (h.symm.trans h'.load_eq)) (hf p.text _)
  · obtain rfl := Except.error.inj (h'.load_eq.symm.trans h)
    exact h'

end ContextFile

namespace Command.Request

variable {r : Request} {s : Surroundings} {root : Log.Root}

/-- A context file that is refused ends the run with a status and a message. -/
theorem run_of_refused (hroot : r.logging s = .ok root) {path : Text} {e : ContextFileError}
    (h : r.entries s = .error (.contextFile path e)) :
    r.run s = .ok { status := 2, errors := "error: " ++ e.message path ++ "\n" } := by
  rw [run, hroot, h]
  rfl

/-- Any other fault ends the run without an answer. -/
theorem run_of_fault (hroot : r.logging s = .ok root) {f : Fault} (h : r.entries s = .error f)
    (hf : ∀ path e, f ≠ .contextFile path e) : r.run s = .error f := by
  rw [run, hroot, h]
  cases f with
  | contextFile path e => exact absurd rfl (hf path e)
  | _ => rfl

end Command.Request

namespace ContextFile

/-- Whatever reads the documents, loading a context file gives a mapping, refuses the file as one,
or lets another fault escape: that of a path which cannot be followed although it may lead
somewhere, and anything that the reader raises besides calling the text malformed. The run answers
a file that is refused with a status and a message, and a fault that escapes ends it. -/
theorem load_classified (read : DocumentReader) (p : Path) (target : Target) :
    (∀ entries, load read p target = .ok entries ↔ Gives read target entries) ∧
    (∀ path e, load read p target = .error (.contextFile path e) ↔
      path = p.text ∧ Refused read p target e) ∧
    (∀ f, (load read p target = .error f ∧ ∀ path e, f ≠ .contextFile path e) ↔
      Escapes read p target f) ∧
    ∀ (r : Command.Request) (s : Command.Surroundings) (root : Log.Root) (word : Text),
      r.logging s = .ok root → r.context = some word → Path.ofText word = p → s.target p = target →
      s.reader = read →
      (∀ e, Refused read p target e →
        r.run s = .ok { status := 2, errors := "error: " ++ e.message p.text ++ "\n" }) ∧
      ∀ f, Escapes read p target f → r.run s = .error f := by
  refine ⟨fun _ => load_eq_ok_iff, fun _ _ => load_eq_refused_iff, fun _ => load_escapes_iff, ?_⟩
  intro r s root word hroot hcontext hpath htarget hreader
  have hentries : r.entries s = load read p target := by
    rw [Command.Request.entries, hcontext]
    dsimp only
    rw [hpath, htarget, hreader]
  exact ⟨fun e he => r.run_of_refused hroot (hentries.trans he.load_eq), fun f hf =>
    r.run_of_fault hroot (hentries.trans hf.load_eq) hf.ne_contextFile⟩

/-- A file of one line, which gives a day in a month that no calendar has. -/
def impossibleMonth : Target :=
  .found (.ok (("day: 2020-13-45\n" : Text).toList.map fun c => c.toNat.toUInt8))

theorem holds_impossibleMonth : Holds impossibleMonth ("day: 2020-13-45\n" : Text).toList :=
  ⟨_, ("day: 2020-13-45\n" : Text).toList, rfl, by decide +kernel, rfl⟩

theorem reader_impossibleMonth : Document.reader ("day: 2020-13-45\n" : Text).toList =
    .error (.raised "ValueError" "month must be in 1..12") := by
  have hnode : Document.Node.ofLexemes (Document.lexemes ("day: 2020-13-45\n" : Text).toList) =
      .ok (some (.mapping .mapping [(.scalar .text ("day" : Text).toList,
        .scalar .timestamp ("2020-13-45" : Text).toList)])) := rfl
  have hread : Document.readScalar .timestamp ("2020-13-45" : Text).toList =
      .error (.fault (.scalar .monthRange)) := rfl
  have hbuild : (Document.Node.mapping .mapping [(.scalar .text ("day" : Text).toList,
      .scalar .timestamp ("2020-13-45" : Text).toList)]).build =
        .error (1, .fault (.scalar .monthRange)) := by
    simp only [Document.Node.build, Document.Node.buildMapping, Document.Node.gather,
      Document.Tag.isFilled, hread]
    rfl
  rw [Document.reader, Document.readDatum, hnode]
  dsimp only [bind, Except.bind]
  rw [hbuild]
  rfl

theorem escapes_impossibleMonth : Escapes Document.reader (.ofText "c.yaml") impossibleMonth
    (.raised "ValueError" "month must be in 1..12") :=
  .document holds_impossibleMonth reader_impossibleMonth

/-- With such a day in its context a request is not answered at all. -/
theorem load_classified_impossible_month :
    let r : Command.Request :=
      ⟨.resolve, [.string "\x7b\x7bday\x7d\x7d"], some "c.yaml", none, false⟩
    let s : Command.Surroundings := {
      time := "00:00:00", target := fun _ => impossibleMonth, reader := Document.reader
      levels := 993 }
    r.run s = .error (.raised "ValueError" "month must be in 1..12") := by
  intro r s
  have hruns := (load_classified s.reader (.ofText "c.yaml") (s.target (.ofText "c.yaml"))).2.2.2
  exact (hruns r s .initial "c.yaml" rfl rfl rfl rfl rfl).2 _ escapes_impossibleMonth

/-- A day in a month that no calendar has ends the loading, and not as a faulty context file. -/
theorem load_impossible_month :
    load Document.reader (.ofText "c.yaml") impossibleMonth =
      .error (.raised "ValueError" "month must be in 1..12") := escapes_impossibleMonth.load_eq

end ContextFile

end Verdict
