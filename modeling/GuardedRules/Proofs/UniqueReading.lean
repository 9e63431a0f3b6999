import GuardedRules.Proofs.DelimitedTexts
import GuardedRules.Proofs.ValueEquality
import GuardedRules.Value.Plain
import Mathlib

/-!
# Plain values and patterns can be read back

Two plain values are cut alike, and so are two plain patterns up to their extractors. That they
also end at one place makes the statement fit for an induction, because a row of items is then
taken apart item by item. What a text starts with tells its kind, up to the words, which are told
apart by what stands behind them.
-/

namespace GuardedRules

open Text

namespace Value

/-- What follows the items of a tuple of so many. -/
def closing (count : Nat) : List Char := if count = 1 then [',', ')'] else [')']

theorem closes_closing (count : Nat) (rest : List Char) : Closes (closing count ++ rest) := by
  unfold closing
  split
  · exact ⟨rest, .inr rfl⟩
  · exact ⟨rest, .inl rfl⟩

theorem toList_string (text : String) :
    (string text).toText.toList = '"' :: (text.toList ++ ['"']) := by
  rw [toText, String.toList_append, String.toList_append]
  rfl

theorem toList_atom (name : String) : (atom name).toText.toList = ':' :: name.toList := by
  rw [toText, String.toList_append]
  rfl

theorem toList_tuple (items : List Value) :
    (tuple items).toText.toList =
      '(' :: (joined (items.map fun item => item.toText.toList) ++ closing items.length) := by
  have hclosing : (if items.length = 1 then ",)" else ")").toList = closing items.length := by
    unfold closing
    split <;> rfl
  rw [toText_tuple, String.toList_append, String.toList_append, String.toList_intercalate,
    hclosing, List.map_map]
  rfl

theorem toList_data (tag : String) (fields : List Value) :
    (data tag fields).toText.toList =
      called tag.toList (fields.map fun field => field.toText.toList) := by
  rw [called, toText, toTexts_eq_map, String.toList_append, String.toList_append,
    String.toList_append, String.toList_intercalate, List.map_map, List.append_assoc,
    List.append_assoc]
  rfl

def lead : Value → Char
  | integer _ => '0'
  | float _ => '0'
  | boolean _ => 'a'
  | string _ => '"'
  | atom _ => ':'
  | tuple _ => '('
  | data _ _ => 'a'
  | unit => 'a'

theorem leads {v : Value} (h : v.isPlain = true) : Leads v.toText.toList v.lead := by
  cases v with
  | integer number => exact leads_repr number.toInt
  | float => cases h
  | boolean truth =>
    cases truth with
    | false => exact leads_of_isIdentifier (by decide)
    | true => exact leads_of_isIdentifier (by decide)
  | string text => exact ⟨_, _, toList_string text, rfl⟩
  | atom name => exact ⟨_, _, toList_atom name, rfl⟩
  | tuple items => exact ⟨_, _, toList_tuple items, rfl⟩
  | data tag fields =>
    rw [toList_data]
    exact (leads_of_isIdentifier (isPlain_data_iff.mp h).1).append _
  | unit => exact leads_of_isIdentifier (by decide)

theorem not_delimited {v : Value} (h : v.isPlain = true) : ¬ Delimited v.toText.toList := by
  apply (leads h).not_delimited
  · cases v <;> simp [lead]
  · cases v <;> simp [lead]

theorem isWord_boolean (truth : Bool) : IsWord (boolean truth).toText.toList := by
  cases truth with
  | false => exact List.all_eq_true.mp (by decide)
  | true => exact List.all_eq_true.mp (by decide)

theorem toList_boolean_inj {truth other : Bool}
    (h : (boolean truth).toText.toList = (boolean other).toText.toList) : truth = other := by
  by_contra hne
  obtain rfl : truth = !other := Bool.eq_not.mpr hne
  cases other with
  | false => exact absurd h (by decide)
  | true => exact absurd h (by decide)

theorem toList_boolean_ne_unit (truth : Bool) :
    (boolean truth).toText.toList ≠ unit.toText.toList := by
  cases truth with
  | false => decide
  | true => decide

theorem isWord_unit : IsWord unit.toText.toList := List.all_eq_true.mp (by decide)

/-- No word is written like data. -/
theorem cutAlike_word_data {word : List Char} {tag : String} {fields : List Value} {same : Prop}
    (hword : IsWord word) (h : (data tag fields).isPlain = true) :
    CutAlike word (data tag fields).toText.toList same := by
  have htag := isWord_of_isIdentifier (isPlain_data_iff.mp h).1
  rw [toList_data, called]
  exact cutAlike_of_word hword htag (by decide) (by decide) (by decide)

theorem cutAlike_string {text other : String} (h : (string text).isPlain = true)
    (hother : (string other).isPlain = true) :
    CutAlike (string text).toText.toList (string other).toText.toList
      (string text = string other) := by
  have hquote : ∀ {text : String}, (string text).isPlain = true →
      ∀ c ∈ text.toList, (c != '"') = true := by
    intro text hplain c hc
    exact bne_iff_ne.mpr fun heq => isPlain_string_iff.mp hplain (heq ▸ hc)
  have hends : ∀ rest, Ends (· != '"') ('"' :: rest) := by
    intro rest c hc
    cases hc
    rfl
  rw [toList_string, toList_string]
  apply CutAlike.cons
  intro rest after _ _ htext
  rw [List.append_assoc, List.append_assoc] at htext
  obtain ⟨htexts, hquotes⟩ :=
    append_inj_of_ends (hquote h) (hquote hother) (hends rest) (hends after) htext
  exact ⟨congrArg string (String.toList_inj.mp htexts), (List.cons.inj hquotes).2⟩

theorem cutAlike_tuple {items others : List Value} (h : (tuple items).isPlain = true)
    (hother : (tuple others).isPlain = true)
    (hitems : ∀ item ∈ items, ∀ other ∈ others,
      CutAlike item.toText.toList other.toText.toList (item = other)) :
    CutAlike (tuple items).toText.toList (tuple others).toText.toList
      (tuple items = tuple others) := by
  rw [toList_tuple, toList_tuple]
  apply CutAlike.cons
  intro rest after _ _ htext
  rw [List.append_assoc, List.append_assoc] at htext
  obtain ⟨hsame, hclosed⟩ := joined_cutAlike id id
    (fun item hitem => not_delimited (isPlainAll_iff.mp h item hitem))
    (fun other hmem => not_delimited (isPlainAll_iff.mp hother other hmem)) hitems
    (closes_closing _ rest) (closes_closing _ after) htext
  rw [List.map_id, List.map_id] at hsame
  subst hsame
  exact ⟨rfl, List.append_cancel_left hclosed⟩

theorem cutAlike_data {tag other : String} {fields others : List Value}
    (h : (data tag fields).isPlain = true) (hother : (data other others).isPlain = true)
    (hfields : ∀ field ∈ fields, ∀ other ∈ others,
      CutAlike field.toText.toList other.toText.toList (field = other)) :
    CutAlike (data tag fields).toText.toList (data other others).toText.toList
      (data tag fields = data other others) := by
  obtain ⟨htag, hplain⟩ := isPlain_data_iff.mp h
  obtain ⟨htag', hplain'⟩ := isPlain_data_iff.mp hother
  rw [toList_data, toList_data]
  refine (called_cutAlike id id (isWord_of_isIdentifier htag) (isWord_of_isIdentifier htag')
    (fun field hmem => not_delimited (hplain field hmem))
    (fun field hmem => not_delimited (hplain' field hmem)) hfields).imp ?_
  intro hsame
  rw [List.map_id, List.map_id] at hsame
  rw [String.toList_inj.mp hsame.1, hsame.2]

theorem cutAlike_of_lead_eq {v w : Value} (hv : v.isPlain = true) (hw : w.isPlain = true)
    (hlead : v.lead = w.lead) : CutAlike v.toText.toList w.toText.toList (v = w) := by
  -- truths, the unit and data all start with a letter; elsewhere the start tells the kind
  induction v using Value.induction generalizing w with
  | integer number =>
    cases w with
    | integer other =>
      apply cutAlike_words (isWord_repr _) (isWord_repr _)
      intro h
      exact congrArg integer (Int64.toInt_inj.mp (Int.repr_inj.mp (String.toList_inj.mp h)))
    | float => cases hw
    | _ => simp [lead] at hlead
  | float => cases hv
  | boolean truth =>
    cases w with
    | boolean other =>
      apply cutAlike_words (isWord_boolean truth) (isWord_boolean other)
      intro h
      exact congrArg boolean (toList_boolean_inj h)
    | data tag fields => exact cutAlike_word_data (isWord_boolean truth) hw
    | unit =>
      apply cutAlike_words (isWord_boolean truth) isWord_unit
      intro h
      exact absurd h (toList_boolean_ne_unit truth)
    | _ => simp [lead] at hlead
  | string text =>
    cases w with
    | string other => exact cutAlike_string hv hw
    | _ => simp [lead] at hlead
  | atom name =>
    cases w with
    | atom other =>
      rw [toList_atom, toList_atom]
      apply CutAlike.cons
      apply cutAlike_words (isWord_of_isIdentifier hv) (isWord_of_isIdentifier hw)
      intro h
      rw [String.toList_inj.mp h]
    | _ => simp [lead] at hlead
  | tuple items ih =>
    cases w with
    | tuple others =>
      have hitems := isPlainAll_iff.mp hv
      have hothers := isPlainAll_iff.mp hw
      apply cutAlike_tuple hv hw
      intro item hitem other hother
      apply cutAlike_of_leads (leads (hitems item hitem)) (leads (hothers other hother))
      exact ih item hitem (hitems item hitem) (hothers other hother)
    | _ => simp [lead] at hlead
  | data tag fields ih =>
    cases w with
    | boolean truth => exact (cutAlike_word_data (isWord_boolean truth) hv).symm
    | data other others =>
      obtain ⟨-, hfields⟩ := isPlain_data_iff.mp hv
      obtain ⟨-, hothers⟩ := isPlain_data_iff.mp hw
      apply cutAlike_data hv hw
      intro field hfield other hother
      apply cutAlike_of_leads (leads (hfields field hfield)) (leads (hothers other hother))
      exact ih field hfield (hfields field hfield) (hothers other hother)
    | unit => exact (cutAlike_word_data isWord_unit hv).symm
    | _ => simp [lead] at hlead
  | unit =>
    cases w with
    | boolean truth =>
      apply cutAlike_words isWord_unit (isWord_boolean truth)
      intro h
      exact absurd h.symm (toList_boolean_ne_unit truth)
    | data tag fields => exact cutAlike_word_data isWord_unit hw
    | unit => exact cutAlike_words isWord_unit isWord_unit fun _ => rfl
    | _ => simp [lead] at hlead

/-- Plain values are cut alike when they are the same. -/
theorem cutAlike {v w : Value} (hv : v.isPlain = true) (hw : w.isPlain = true) :
    CutAlike v.toText.toList w.toText.toList (v = w) :=
  cutAlike_of_leads (leads hv) (leads hw) (cutAlike_of_lead_eq hv hw)

theorem nanFree_of_isPlain {v : Value} (h : v.isPlain = true) : v.NaNFree := by
  induction v using Value.induction with
  | float => cases h
  | tuple items ih =>
    have hitems := isPlainAll_iff.mp h
    exact nanFreeAll_iff.mpr fun item hitem => ih item hitem (hitems item hitem)
  | data tag fields ih =>
    obtain ⟨-, hfields⟩ := isPlain_data_iff.mp h
    exact nanFreeAll_iff.mpr fun field hfield => ih field hfield (hfields field hfield)
  | _ => trivial

end Value

namespace Pattern

variable {σ τ : Type}

theorem toList_constructor (name : String) (children : List (Pattern σ Value))
    (extract : Extractor σ Value) :
    (constructor name children extract).toText.toList =
      called name.toList (children.map fun child => child.toText.toList) := by
  rw [called, toText, toTexts_eq_map, String.toList_append, String.toList_append,
    String.toList_append, String.toList_intercalate, List.map_map, List.append_assoc,
    List.append_assoc]
  rfl

theorem toList_aliased (name : String) (inner : Pattern σ Value) :
    (aliased name inner).toText.toList =
      name.toList ++ ' ' :: '@' :: ' ' :: inner.toText.toList := by
  rw [toText, String.toList_append, String.toList_append, List.append_assoc]
  rfl

theorem toList_equality (value : Value) :
    (equality value : Pattern σ Value).toText.toList =
      '=' :: '=' :: ' ' :: value.toText.toList := by
  rw [toText, String.toList_append]
  rfl

theorem toList_wildcard : (wildcard : Pattern σ Value).toText.toList = ['_'] := by
  rw [toText]
  rfl

def lead : Pattern σ Value → Char
  | constructor _ _ _ => 'a'
  | var _ => 'a'
  | wildcard => '_'
  | aliased _ _ => 'a'
  | equality _ => '='

theorem leads {p : Pattern σ Value} (h : p.isPlain = true) : Leads p.toText.toList p.lead := by
  cases p with
  | constructor name children extract =>
    rw [toList_constructor]
    exact (leads_of_isIdentifier (isPlain_constructor_iff.mp h).1).append _
  | var name => exact leads_of_isIdentifier h
  | wildcard => exact ⟨_, _, toList_wildcard, rfl⟩
  | aliased name inner =>
    rw [toList_aliased]
    exact (leads_of_isIdentifier (isPlain_aliased_iff.mp h).1).append _
  | equality value => exact ⟨_, _, toList_equality value, rfl⟩

theorem not_delimited {p : Pattern σ Value} (h : p.isPlain = true) :
    ¬ Delimited p.toText.toList := by
  apply (leads h).not_delimited
  · cases p <;> simp [lead]
  · cases p <;> simp [lead]

/-- No name is written like a constructor or an alias, and neither of these like the other. -/
theorem cutAlike_var_constructor {name other : String} {children : List (Pattern σ Value)}
    {extract : Extractor σ Value} {same : Prop} (h : Text.isIdentifier name = true)
    (hother : (constructor other children extract).isPlain = true) :
    CutAlike name.toList (constructor other children extract).toText.toList same := by
  have hname := isWord_of_isIdentifier (isPlain_constructor_iff.mp hother).1
  rw [toList_constructor, called]
  exact cutAlike_of_word (isWord_of_isIdentifier h) hname (by decide) (by decide) (by decide)

theorem cutAlike_var_aliased {name other : String} {inner : Pattern σ Value} {same : Prop}
    (h : Text.isIdentifier name = true) (hother : (aliased other inner).isPlain = true) :
    CutAlike name.toList (aliased other inner).toText.toList same := by
  have hname := isWord_of_isIdentifier (isPlain_aliased_iff.mp hother).1
  rw [toList_aliased]
  exact cutAlike_of_word (isWord_of_isIdentifier h) hname (by decide) (by decide) (by decide)

theorem cutAlike_constructor_aliased {name other : String} {children : List (Pattern σ Value)}
    {extract : Extractor σ Value} {inner : Pattern τ Value} {same : Prop}
    (h : (constructor name children extract).isPlain = true)
    (hother : (aliased other inner).isPlain = true) :
    CutAlike (constructor name children extract).toText.toList
      (aliased other inner).toText.toList same := by
  have hname := isWord_of_isIdentifier (isPlain_constructor_iff.mp h).1
  have hname' := isWord_of_isIdentifier (isPlain_aliased_iff.mp hother).1
  rw [toList_constructor, toList_aliased, called]
  intro rest after _ _ htext
  rw [List.append_assoc, List.append_assoc] at htext
  obtain ⟨-, hmarked⟩ :=
    append_inj_of_ends hname hname' (ends_cons (by decide)) (ends_cons (by decide)) htext
  exact absurd (List.cons.inj hmarked).1 (by decide)

theorem cutAlike_constructor {name other : String} {children : List (Pattern σ Value)}
    {others : List (Pattern τ Value)} {extract : Extractor σ Value}
    {otherExtract : Extractor τ Value}
    (h : (constructor name children extract).isPlain = true)
    (hother : (constructor other others otherExtract).isPlain = true)
    (hchildren : ∀ child ∈ children, ∀ other ∈ others, CutAlike child.toText.toList
      other.toText.toList (child.withoutExtractors = other.withoutExtractors)) :
    CutAlike (constructor name children extract).toText.toList
      (constructor other others otherExtract).toText.toList
      ((constructor name children extract).withoutExtractors =
        (constructor other others otherExtract).withoutExtractors) := by
  obtain ⟨hname, hplain⟩ := isPlain_constructor_iff.mp h
  obtain ⟨hname', hplain'⟩ := isPlain_constructor_iff.mp hother
  rw [toList_constructor, toList_constructor]
  refine (called_cutAlike withoutExtractors withoutExtractors
    (isWord_of_isIdentifier hname) (isWord_of_isIdentifier hname')
    (fun child hmem => not_delimited (hplain child hmem))
    (fun child hmem => not_delimited (hplain' child hmem)) hchildren).imp ?_
  intro hsame
  rw [withoutExtractors, withoutExtractors, withoutAllExtractors_eq_map,
    withoutAllExtractors_eq_map, String.toList_inj.mp hsame.1, hsame.2]

theorem cutAlike_aliased {name other : String} {inner : Pattern σ Value}
    {otherInner : Pattern τ Value} (h : (aliased name inner).isPlain = true)
    (hother : (aliased other otherInner).isPlain = true)
    (hinner : CutAlike inner.toText.toList otherInner.toText.toList
      (inner.withoutExtractors = otherInner.withoutExtractors)) :
    CutAlike (aliased name inner).toText.toList (aliased other otherInner).toText.toList
      ((aliased name inner).withoutExtractors = (aliased other otherInner).withoutExtractors) := by
  have hname := isWord_of_isIdentifier (isPlain_aliased_iff.mp h).1
  have hname' := isWord_of_isIdentifier (isPlain_aliased_iff.mp hother).1
  have hmark := ((hinner.cons ' ').cons '@').cons ' '
  rw [toList_aliased, toList_aliased]
  intro rest after hrest hafter htext
  rw [List.append_assoc, List.append_assoc] at htext
  obtain ⟨hnames, hmarked⟩ :=
    append_inj_of_ends hname hname' (ends_cons (by decide)) (ends_cons (by decide)) htext
  obtain ⟨hsame, hends⟩ := hmark rest after hrest hafter hmarked
  refine ⟨?_, hends⟩
  rw [withoutExtractors, withoutExtractors, String.toList_inj.mp hnames, hsame]

theorem cutAlike_of_lead_eq {p : Pattern σ Value} {q : Pattern τ Value} (hp : p.isPlain = true)
    (hq : q.isPlain = true) (hlead : p.lead = q.lead) :
    CutAlike p.toText.toList q.toText.toList (p.withoutExtractors = q.withoutExtractors) := by
  -- constructors, variables and aliases all start with a name, and what is behind it tells them
  induction p using Pattern.induction generalizing q with
  | constructor name children extract ih =>
    cases q with
    | constructor other others =>
      obtain ⟨-, hchildren⟩ := isPlain_constructor_iff.mp hp
      obtain ⟨-, hothers⟩ := isPlain_constructor_iff.mp hq
      apply cutAlike_constructor hp hq
      intro child hchild other hother
      apply cutAlike_of_leads (leads (hchildren child hchild)) (leads (hothers other hother))
      exact ih child hchild (hchildren child hchild) (hothers other hother)
    | var other => exact (cutAlike_var_constructor hq hp).symm
    | aliased other inner => exact cutAlike_constructor_aliased hp hq
    | _ => simp [lead] at hlead
  | var name =>
    cases q with
    | constructor other others extract => exact cutAlike_var_constructor hp hq
    | var other =>
      apply cutAlike_words (isWord_of_isIdentifier hp) (isWord_of_isIdentifier hq)
      intro h
      rw [withoutExtractors, withoutExtractors, String.toList_inj.mp h]
    | aliased other inner => exact cutAlike_var_aliased hp hq
    | _ => simp [lead] at hlead
  | wildcard =>
    cases q with
    | wildcard =>
      rw [toList_wildcard, toList_wildcard]
      exact fun rest other _ _ htext => ⟨rfl, (List.cons.inj htext).2⟩
    | _ => simp [lead] at hlead
  | aliased name inner ih =>
    cases q with
    | constructor other others extract => exact (cutAlike_constructor_aliased hq hp).symm
    | var other => exact (cutAlike_var_aliased hq hp).symm
    | aliased other otherInner =>
      obtain ⟨-, hinner⟩ := isPlain_aliased_iff.mp hp
      obtain ⟨-, hother⟩ := isPlain_aliased_iff.mp hq
      apply cutAlike_aliased hp hq
      exact cutAlike_of_leads (leads hinner) (leads hother) (ih hinner hother)
    | _ => simp [lead] at hlead
  | equality value =>
    cases q with
    | equality other =>
      rw [toList_equality, toList_equality]
      refine ((((Value.cutAlike hp hq).cons ' ').cons '=').cons '=').imp ?_
      intro hvalues
      rw [withoutExtractors, withoutExtractors, hvalues]
    | _ => simp [lead] at hlead

/-- Plain patterns are cut alike when they are the same up to their extractors. -/
theorem cutAlike {p : Pattern σ Value} {q : Pattern τ Value} (hp : p.isPlain = true)
    (hq : q.isPlain = true) :
    CutAlike p.toText.toList q.toText.toList (p.withoutExtractors = q.withoutExtractors) :=
  cutAlike_of_leads (leads hp) (leads hq) (cutAlike_of_lead_eq hp hq)

/-- Plain values of one text are one value, and plain patterns have one text when they are the
same up to their extractors, and only then. -/
theorem texts_of_plain_unambiguous :
    (∀ v w : Value, v.isPlain = true → w.isPlain = true → v.toText = w.toText →
      v = w ∧ (v == w) = true) ∧
    ∀ (σ τ : Type) (p : Pattern σ Value) (q : Pattern τ Value), p.isPlain = true →
      q.isPlain = true → (p.toText = q.toText ↔ p.withoutExtractors = q.withoutExtractors) := by
  refine ⟨?_, ?_⟩
  · intro v w hv hw htext
    obtain rfl : v = w := (Value.cutAlike hv hw).of_eq (congrArg String.toList htext)
    exact ⟨rfl, Value.beq_self_of_nanFree (Value.nanFree_of_isPlain hv)⟩
  · intro σ τ p q hp hq
    refine ⟨?_, ?_⟩
    · intro htext
      exact (cutAlike hp hq).of_eq (congrArg String.toList htext)
    · intro hsame
      rw [← toText_withoutExtractors p, hsame, toText_withoutExtractors]

/-- A text with a comma and brackets in it, in a tuple of one. -/
theorem texts_of_plain_unambiguous_brackets :
    let value := Value.tuple [.data "f" [.string "a, (b)", .unit], .atom "ok"]
    let pattern := fun extract : Extractor Nat Value =>
      aliased "whole" (constructor "Pair" [var "x", equality (.tuple [value])] extract)
    let p := pattern fun _ => return none
    let q := pattern fun v => return some [v, v]
    value.isPlain = true ∧ p.isPlain = true ∧ q.isPlain = true ∧
      p.toText = "whole @ Pair(x, == ((f(\"a, (b)\", unit), :ok),))" ∧
      p.toText = q.toText ∧ p.withoutExtractors = q.withoutExtractors ∧
      (value == value) = true := by
  intro value pattern p q
  have hvalue : value.isPlain = true := by decide
  have hp : p.isPlain = true := by decide
  have hq : q.isPlain = true := by decide
  have htext : p.toText = q.toText := rfl
  obtain ⟨hvalues, hpatterns⟩ := texts_of_plain_unambiguous
  exact ⟨hvalue, hp, hq, rfl, htext, (hpatterns Nat Nat p q hp hq).mp htext,
    (hvalues value value hvalue hvalue rfl).2⟩

end Pattern

end GuardedRules
