import BotBindings.Proofs.RecordReader
import BotBindings.Schema.Reader

namespace BotBindings.Schema

open Json Json.Value

/-- Parts of a draft that are set apart from each other. -/
theorem Slot.independent_of {δ β γ : Type} {key key' : String} {get : δ → Option β}
    {put : β → δ → δ} {get' : δ → Option γ} {put' : γ → δ → δ} {value : Reader β}
    {value' : Reader γ} {decode : Value → Option β} {decode' : Value → Option γ}
    (h : Reads value decode) (h' : Reads value' decode')
    (hput : ∀ b draft, get (put b draft) = some b) (hput' : ∀ c draft, get' (put' c draft) = some c)
    (hleft : ∀ c draft, get (put' c draft) = get draft)
    (hright : ∀ b draft, get' (put b draft) = get' draft)
    (hcomm : ∀ b c draft, put b (put' c draft) = put' c (put b draft)) :
    Slot.Independent (.of key get put h hput) (.of key' get' put' h' hput') where
  left w q draft hq := by
    obtain ⟨c, -, rfl⟩ := Option.map_eq_some_iff.1 hq
    exact congrArg Option.isSome (hleft c draft)
  right v p draft hp := by
    obtain ⟨b, -, rfl⟩ := Option.map_eq_some_iff.1 hp
    exact congrArg Option.isSome (hright b draft)
  comm v w p q draft hp hq := by
    obtain ⟨b, -, rfl⟩ := Option.map_eq_some_iff.1 hp
    obtain ⟨c, -, rfl⟩ := Option.map_eq_some_iff.1 hq
    exact hcomm b c draft

theorem reads_strings : Reads (readList readString) (asList asString) := reads_string.list

theorem reads_text : Reads (readOption readString) (asOption asString) := reads_string.option

def fieldSlots : List (Slot FieldDraft) := [
  .of "name" (·.name) (fun v d => { d with name := some v }) reads_string fun _ _ => rfl,
  .of "types" (·.types) (fun v d => { d with types := some v }) reads_strings fun _ _ => rfl,
  .of "required" (·.required) (fun v d => { d with required := some v }) reads_bool fun _ _ => rfl,
  .of "description" (·.description) (fun v d => { d with description := some v }) reads_string
    fun _ _ => rfl]

def fieldForm : Form FieldDraft Field where
  shape := fieldShape
  slots := fieldSlots
  members := rfl
  independent := by
    rw [fieldSlots]
    simp only [List.pairwise_cons, List.forall_mem_cons, List.not_mem_nil, false_imp_iff,
      implies_true, and_true, List.Pairwise.nil]
    repeat' apply And.intro
    all_goals exact Slot.independent_of _ _ _ _ (fun _ _ => rfl) (fun _ _ => rfl) fun _ _ _ => rfl

theorem reads_fields : Reads (readOption (readList (readRecord fieldShape)))
    (asOption (asList fieldForm.decode)) := fieldForm.reads_record.list.option

def typeSlots : List (Slot TypeDraft) := [
  .of "name" (·.name) (fun v d => { d with name := some v }) reads_string fun _ _ => rfl,
  .of "description" (·.description) (fun v d => { d with description := some v }) reads_strings
    fun _ _ => rfl,
  .of "href" (·.href) (fun v d => { d with href := some v }) reads_text fun _ _ => rfl,
  .of "subtypes" (·.subtypes) (fun v d => { d with subtypes := some v }) reads_strings.option
    fun _ _ => rfl,
  .of "subtype_of" (·.subtypeOf) (fun v d => { d with subtypeOf := some v }) reads_strings.option
    fun _ _ => rfl,
  .of "fields" (·.fields) (fun v d => { d with fields := some v }) reads_fields fun _ _ => rfl]

def typeForm : Form TypeDraft TypeEntry where
  shape := typeShape
  slots := typeSlots
  members := rfl
  independent := by
    rw [typeSlots]
    simp only [List.pairwise_cons, List.forall_mem_cons, List.not_mem_nil, false_imp_iff,
      implies_true, and_true, List.Pairwise.nil]
    repeat' apply And.intro
    all_goals exact Slot.independent_of _ _ _ _ (fun _ _ => rfl) (fun _ _ => rfl) fun _ _ _ => rfl

def methodSlots : List (Slot MethodDraft) := [
  .of "name" (·.name) (fun v d => { d with name := some v }) reads_string fun _ _ => rfl,
  .of "description" (·.description) (fun v d => { d with description := some v }) reads_strings
    fun _ _ => rfl,
  .of "href" (·.href) (fun v d => { d with href := some v }) reads_text fun _ _ => rfl,
  .of "fields" (·.fields) (fun v d => { d with fields := some v }) reads_fields fun _ _ => rfl,
  .of "returns" (·.returns) (fun v d => { d with returns := some v }) reads_strings
    fun _ _ => rfl]

def methodForm : Form MethodDraft MethodEntry where
  shape := methodShape
  slots := methodSlots
  members := rfl
  independent := by
    rw [methodSlots]
    simp only [List.pairwise_cons, List.forall_mem_cons, List.not_mem_nil, false_imp_iff,
      implies_true, and_true, List.Pairwise.nil]
    repeat' apply And.intro
    all_goals exact Slot.independent_of _ _ _ _ (fun _ _ => rfl) (fun _ _ => rfl) fun _ _ _ => rfl

def documentSlots : List (Slot DocumentDraft) := [
  .of "version" (·.version) (fun v d => { d with version := some v }) reads_text fun _ _ => rfl,
  .of "release_date" (·.releaseDate) (fun v d => { d with releaseDate := some v }) reads_text
    fun _ _ => rfl,
  .of "changelog" (·.changelog) (fun v d => { d with changelog := some v }) reads_text
    fun _ _ => rfl,
  .of "types" (·.types) (fun v d => { d with types := some v }) typeForm.reads_record.map
    fun _ _ => rfl,
  .of "methods" (·.methods) (fun v d => { d with methods := some v }) methodForm.reads_record.map
    fun _ _ => rfl]

def documentForm : Form DocumentDraft Document where
  shape := documentShape
  slots := documentSlots
  members := rfl
  independent := by
    rw [documentSlots]
    simp only [List.pairwise_cons, List.forall_mem_cons, List.not_mem_nil, false_imp_iff,
      implies_true, and_true, List.Pairwise.nil]
    repeat' apply And.intro
    all_goals exact Slot.independent_of _ _ _ _ (fun _ _ => rfl) (fun _ _ => rfl) fun _ _ _ => rfl

/-- However a tree is written, its text holds the document that the tree does, or none. -/
theorem Document.toOption_parse_whole (before : Space) (w : Written) (behind : Space) :
    (Document.parse (w.whole before behind)).toOption = documentForm.decode w.value :=
  documentForm.reads_record.whole before w behind

theorem Document.toOption_parse_compact (v : Value) :
    (Document.parse (String.ofList v.compact)).toOption = documentForm.decode v :=
  documentForm.reads_record.all v

end BotBindings.Schema
