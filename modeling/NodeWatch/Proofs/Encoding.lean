import Mathlib.Logic.Function.Basic
import NodeWatch.Exporter
import NodeWatch.Plugin.Crd
import NodeWatch.Proofs.Json.Shape

/-!
# Encodings lose nothing

Conditions, the records in which they are exported, and custom resources are written as JSON. Each
is read back from its text, so different ones have different texts. The main statement is
`encodings_readBack`.
-/

namespace NodeWatch

open Json

namespace Condition

lemma inRange_members (c : Condition) : InRangeMembers c.members := by
  have hhigh : c.minOccurrences.toInt < Word.limit64 :=
    Int.lt_trans c.minOccurrences.toInt_lt (by decide)
  exact ⟨trivial, trivial, trivial, ⟨c.minOccurrences.le_toInt, hhigh⟩, trivial⟩

lemma isFieldOf_members (c : Condition) : List.Forall₂ Shape.IsFieldOf c.members
    [("reason", Shape.text), ("message", Shape.text), ("severity", Severity.shape),
      ("minOccurrences", Shape.integer)] := by
  have hseverity : c.severity.name ∈
      [Severity.info.name, Severity.warning.name, Severity.fatal.name] := by
    cases c.severity <;> simp
  have hleast := Shape.reads_integer c.minOccurrences.le_toInt c.minOccurrences.toInt_lt
  exact .cons ⟨rfl, Shape.reads_text _⟩ (.cons ⟨rfl, Shape.reads_text _⟩
    (.cons ⟨rfl, Shape.reads_choice hseverity⟩ (.cons ⟨rfl, hleast⟩ .nil)))

lemma ofValue?_members (c : Condition) : ofValue? (.object c.members) = some c := by
  simp [ofValue?, members, Severity.ofName?_name]

lemma ofJson_of_shape (c : Condition) {v : Value} (hv : v.InRange)
    (h : shape v.tree = .ok (.object c.members)) : ofJson v.toText = .ok c := by
  rw [ofJson, Shape.parse_toText hv h]
  simp only [bind, Except.bind, ofValue?_members]
  rfl

lemma ofJson_toJson (c : Condition) : ofJson c.toJson = .ok c :=
  c.ofJson_of_shape c.inRange_members (Shape.reads_record c.isFieldOf_members (by decide))

/-- A reader of conditions skips the name of the monitor. -/
lemma ofJson_recordJson (source : String) (c : Condition) : ofJson (c.recordJson source) = .ok c :=
  c.ofJson_of_shape ⟨trivial, c.inRange_members⟩
    (Shape.record_tree c.isFieldOf_members (by decide) rfl)

end Condition

namespace Notification

/-- Reads the name of the monitor from a record, and nothing else. -/
def readMonitor (text : String) : Except Fault String := do
  match ← (Shape.record [("source", Shape.text)]).parse text with
  | .object [(_, .text monitor)] => pure monitor
  | _ => throw .mismatched

lemma readMonitor_record (n : Notification) : readMonitor n.record.text = .ok n.monitor := by
  have hsource : (Shape.record [("source", Shape.text)]).parse n.record.text =
      .ok (.object [("source", .text n.monitor)]) := by
    refine Shape.parse_toText ⟨trivial, n.condition.inRange_members⟩ ?_
    exact Shape.record_tree (.cons ⟨rfl, Shape.reads_text _⟩ .nil) (by decide) rfl
  rw [readMonitor, hsource]
  rfl

/-- Reads a record as a notification. -/
def ofRecord (text : String) : Except Fault Notification := do
  let monitor ← readMonitor text
  let condition ← Condition.ofJson text
  pure { monitor, condition }

lemma ofRecord_record (n : Notification) : ofRecord n.record.text = .ok n := by
  have hcondition : Condition.ofJson n.record.text = .ok n.condition :=
    n.condition.ofJson_recordJson n.monitor
  rw [ofRecord, readMonitor_record, hcondition]
  rfl

/-- The members of a record are those of its condition, with the name of the monitor before them. -/
lemma record_text (n : Notification) : ∃ members, n.condition.toJson.toList = '\x7b' :: members ∧
    n.record.text.toList =
      '\x7b' :: (quote "source" ++ ':' :: quote n.monitor ++ ',' :: members) := by
  refine ⟨_, by rw [Condition.toJson, Value.toText, String.toList_ofList, Value.write]; rfl, ?_⟩
  simp [record, Condition.recordJson, Value.toText, Value.write, Condition.members, writeMembers,
    commaSeparated]

end Notification

namespace Plugin.Crd

lemma inRange_versions (versions : List CrdVersion) :
    InRangeItems (versions.map CrdVersion.toValue) := by
  induction versions with
  | nil => exact trivial
  | cons v versions ih => exact ⟨⟨trivial, trivial, trivial, trivial⟩, ih⟩

lemma inRange_toValue (d : Crd) : d.toValue.InRange :=
  ⟨trivial, trivial, trivial, trivial, trivial, inRange_versions d.versions, trivial⟩

lemma reads_version (v : CrdVersion) : CrdVersion.shape.Reads v.toValue :=
  Shape.reads_record (.cons ⟨rfl, Shape.reads_text _⟩ (.cons ⟨rfl, Shape.reads_flag _⟩
    (.cons ⟨rfl, Shape.reads_flag _⟩ .nil))) (by decide)

lemma reads_toValue (d : Crd) : shape.Reads d.toValue := by
  have hscope : d.scope.name ∈ [Scope.namespaced.name, Scope.cluster.name] := by
    cases d.scope <;> simp
  have hversions : ∀ item ∈ d.versions.map CrdVersion.toValue, CrdVersion.shape.Reads item := by
    intro item hitem
    obtain ⟨v, -, rfl⟩ := List.mem_map.mp hitem
    exact reads_version v
  exact Shape.reads_record (.cons ⟨rfl, Shape.reads_text _⟩ (.cons ⟨rfl, Shape.reads_text _⟩
    (.cons ⟨rfl, Shape.reads_text _⟩ (.cons ⟨rfl, Shape.reads_text _⟩
      (.cons ⟨rfl, Shape.reads_choice hscope⟩ (.cons ⟨rfl, Shape.reads_list hversions⟩ .nil))))))
    (by decide)

lemma mapM_ofValue?_toValue (versions : List CrdVersion) :
    (versions.map CrdVersion.toValue).mapM CrdVersion.ofValue? = some versions := by
  induction versions with
  | nil => rfl
  | cons v versions ih =>
    rw [List.map_cons, List.mapM_cons, ih]
    rfl

lemma ofValue?_toValue (d : Crd) : ofValue? d.toValue = some d := by
  simp only [ofValue?, toValue, Scope.ofName?_name, mapM_ofValue?_toValue]
  rfl

lemma ofJson_toJson (d : Crd) : ofJson d.toJson = .ok d := by
  rw [ofJson, toJson, Shape.parse_toText d.inRange_toValue d.reads_toValue]
  simp only [bind, Except.bind, ofValue?_toValue]
  rfl

end Plugin.Crd

/-- What can be read back is told apart by its text. -/
lemma injective_of_readBack {α ε : Type} {write : α → String} {read : String → Except ε α}
    (h : ∀ a, read (write a) = .ok a) : Function.Injective write := by
  intro a b htext
  have hread := h a
  rw [htext, h b] at hread
  exact (Except.ok.inj hread).symm

/-- What is written is read back:

* a condition, whatever its reason, message, severity and number of sightings;
* the condition of an exported record, which has the name of the monitor before the members of the
  condition, and the name itself;
* a custom resource with any number of versions.

So different conditions, records or resources have different texts. -/
theorem encodings_readBack :
    (∀ c : Condition, Condition.ofJson c.toJson = .ok c) ∧
    (∀ n : Notification, Condition.ofJson n.record.text = .ok n.condition ∧
      Notification.readMonitor n.record.text = .ok n.monitor ∧
      ∃ members, n.condition.toJson.toList = '\x7b' :: members ∧ n.record.text.toList =
        '\x7b' :: (quote "source" ++ ':' :: quote n.monitor ++ ',' :: members)) ∧
    (∀ d : Plugin.Crd, Plugin.Crd.ofJson d.toJson = .ok d) ∧
    Function.Injective Condition.toJson ∧
    Function.Injective (fun n : Notification => n.record.text) ∧
    Function.Injective Plugin.Crd.toJson := by
  have hrecord : ∀ n : Notification, Notification.ofRecord n.record.text = .ok n :=
    fun n => n.ofRecord_record
  exact ⟨Condition.ofJson_toJson, fun n => ⟨n.condition.ofJson_recordJson n.monitor,
    n.readMonitor_record, n.record_text⟩, Plugin.Crd.ofJson_toJson,
    injective_of_readBack Condition.ofJson_toJson, injective_of_readBack hrecord,
    injective_of_readBack Plugin.Crd.ofJson_toJson⟩

end NodeWatch
