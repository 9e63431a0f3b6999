import GuardedRules.Text.Identifier

/-!
# Texts before a delimiter

Parts of a text end where a character follows that cannot be part of them: names and numbers at
any mark, items in a row at a comma or a closing bracket. Two texts are cut alike when, wherever
both begin one text before a delimiter, they end at one place and are written for the same. Rows
of items are cut alike when their items are, and so are names with their items in brackets. Texts
that start with characters of different kinds never begin one text.
-/

namespace GuardedRules.Text

/-- Nothing follows that would go on with the same part of a text. -/
def Ends (belongs : Char → Bool) (rest : List Char) : Prop :=
  ∀ c ∈ rest.head?, belongs c = false

/-- Parts of the same characters that end where other characters follow are the same part. -/
theorem append_inj_of_ends {belongs : Char → Bool} {first second rest other : List Char}
    (hfirst : ∀ c ∈ first, belongs c = true) (hsecond : ∀ c ∈ second, belongs c = true)
    (hrest : Ends belongs rest) (hother : Ends belongs other)
    (h : first ++ rest = second ++ other) : first = second ∧ rest = other := by
  induction first generalizing second with
  | nil =>
    cases second with
    | nil => exact ⟨rfl, h⟩
    | cons c second =>
      have hends : belongs c = false := hrest c (by rw [List.nil_append] at h; rw [h]; rfl)
      rw [hsecond c List.mem_cons_self] at hends
      cases hends
  | cons c first ih =>
    cases second with
    | nil =>
      have hends : belongs c = false := hother c (by rw [List.nil_append] at h; rw [← h]; rfl)
      rw [hfirst c List.mem_cons_self] at hends
      cases hends
    | cons d second =>
      obtain ⟨rfl, htail⟩ := List.cons.inj h
      obtain ⟨rfl, hlater⟩ := ih (fun c hc => hfirst c (List.mem_cons_of_mem _ hc))
        (fun c hc => hsecond c (List.mem_cons_of_mem _ hc)) htail
      exact ⟨rfl, hlater⟩

/-- A comma or a closing bracket follows, or nothing at all. -/
def Delimited (rest : List Char) : Prop := ∀ c ∈ rest.head?, c = ',' ∨ c = ')'

theorem delimited_nil : Delimited [] := by
  intro c hc
  cases hc

/-- A closing bracket follows, behind a comma or at once. -/
def Closes (rest : List Char) : Prop := ∃ after, rest = ')' :: after ∨ rest = ',' :: ')' :: after

theorem Closes.delimited {rest : List Char} (h : Closes rest) : Delimited rest := by
  obtain ⟨after, rfl | rfl⟩ := h
  · intro c hc
    cases hc
    exact .inr rfl
  · intro c hc
    cases hc
    exact .inl rfl

theorem Delimited.ne {rest after : List Char} {mark : Char} (h : Delimited rest)
    (hcomma : mark ≠ ',') (hbracket : mark ≠ ')') : rest ≠ mark :: after := by
  intro heq
  subst heq
  rcases h mark rfl with rfl | rfl
  · exact hcomma rfl
  · exact hbracket rfl

theorem not_delimited_append {text : List Char} (h : ¬ Delimited text) (rest : List Char) :
    ¬ Delimited (text ++ rest) := by
  cases text with
  | nil => exact absurd delimited_nil h
  | cons first text => exact h

/-- Where two delimited texts begin one text, they are written for the same and end at one
place. -/
def CutAlike (first second : List Char) (same : Prop) : Prop :=
  ∀ rest other, Delimited rest → Delimited other → first ++ rest = second ++ other →
    same ∧ rest = other

theorem CutAlike.imp {first second : List Char} {same than : Prop} (h : CutAlike first second same)
    (himp : same → than) : CutAlike first second than := by
  intro rest other hrest hother htext
  obtain ⟨hsame, hends⟩ := h rest other hrest hother htext
  exact ⟨himp hsame, hends⟩

theorem CutAlike.of_eq {first second : List Char} {same : Prop} (h : CutAlike first second same)
    (heq : first = second) : same :=
  (h [] [] delimited_nil delimited_nil (congrArg (· ++ []) heq)).1

theorem CutAlike.symm {first second : List Char} {same : Prop} (h : CutAlike first second same) :
    CutAlike second first same := by
  intro rest other hrest hother htext
  obtain ⟨hsame, hends⟩ := h other rest hother hrest htext.symm
  exact ⟨hsame, hends.symm⟩

/-- Texts that one character starts are cut alike when what is behind it is. -/
theorem CutAlike.cons {first second : List Char} {same : Prop} (h : CutAlike first second same)
    (c : Char) : CutAlike (c :: first) (c :: second) same :=
  fun rest other hrest hother htext => h rest other hrest hother (List.cons.inj htext).2

def joined (texts : List (List Char)) : List Char := [',', ' '].intercalate texts

/-- What stands behind an item: the items after it, or what follows them all. -/
def behind (texts : List (List Char)) (rest : List Char) : List Char :=
  match texts with
  | [] => rest
  | _ :: _ => ',' :: ' ' :: (joined texts ++ rest)

theorem joined_cons_append (text : List Char) (texts : List (List Char)) (rest : List Char) :
    joined (text :: texts) ++ rest = text ++ behind texts rest := by
  cases texts with
  | nil => rw [joined, List.intercalate_singleton, behind]
  | cons other texts =>
    rw [joined, List.intercalate_cons_cons, behind, joined, List.append_assoc, List.append_assoc]
    rfl

theorem delimited_behind {texts : List (List Char)} {rest : List Char} (h : Closes rest) :
    Delimited (behind texts rest) := by
  cases texts with
  | nil => exact h.delimited
  | cons text texts =>
    intro c hc
    cases hc
    exact .inl rfl

theorem not_closes_behind_cons {text rest : List Char} {texts : List (List Char)} :
    ¬ Closes (behind (text :: texts) rest) := by
  intro h
  obtain ⟨after, h | h⟩ := h
  · cases h
  · cases h

/-- What stands behind an item tells whether there are more. -/
theorem joined_eq_of_behind_eq {texts others : List (List Char)} {rest other : List Char}
    (hrest : Closes rest) (hother : Closes other) (h : behind texts rest = behind others other) :
    joined texts ++ rest = joined others ++ other := by
  cases texts with
  | nil =>
    cases others with
    | nil => exact h
    | cons text others =>
      have hclosed : rest = behind (text :: others) other := h
      exact absurd (hclosed ▸ hrest) not_closes_behind_cons
  | cons text texts =>
    cases others with
    | nil =>
      have hclosed : behind (text :: texts) rest = other := h
      exact absurd (hclosed ▸ hother) not_closes_behind_cons
    | cons => exact (List.cons.inj (List.cons.inj h).2).2

/-- The characters of names and numbers. -/
def isWordPart (c : Char) : Bool := isNamePart c || c == '-'

def IsWord (text : List Char) : Prop := ∀ c ∈ text, isWordPart c = true

theorem Delimited.ends {rest : List Char} (h : Delimited rest) : Ends isWordPart rest := by
  intro c hc
  rcases h c hc with rfl | rfl
  · decide
  · decide

theorem ends_cons {mark : Char} {after : List Char} (h : isWordPart mark = false) :
    Ends isWordPart (mark :: after) := by
  intro c hc
  cases hc
  exact h

/-- Words that are cut alike are the same word. -/
theorem cutAlike_words {first second : List Char} {same : Prop}
    (hfirst : IsWord first) (hsecond : IsWord second)
    (h : first = second → same) : CutAlike first second same := by
  intro rest other hrest hother htext
  obtain ⟨hword, hends⟩ := append_inj_of_ends hfirst hsecond hrest.ends hother.ends htext
  exact ⟨h hword, hends⟩

/-- No word is cut like a text that goes on behind a word with a mark other than a delimiter. -/
theorem cutAlike_of_word {word name after : List Char} {mark : Char} {same : Prop}
    (hword : IsWord word) (hname : IsWord name)
    (hmark : isWordPart mark = false) (hcomma : mark ≠ ',') (hbracket : mark ≠ ')') :
    CutAlike word (name ++ mark :: after) same := by
  intro rest other hrest _ htext
  rw [List.append_assoc, List.cons_append] at htext
  obtain ⟨-, hmarked⟩ := append_inj_of_ends hword hname hrest.ends (ends_cons hmark) htext
  exact absurd hmarked (hrest.ne hcomma hbracket)

section Rows

variable {α β γ : Type} {print : α → List Char} {write : β → List Char} (content : α → γ)
  (meaning : β → γ)

/-- Rows of items are cut alike when their items are. -/
theorem joined_cutAlike {as : List α} {bs : List β}
    (has : ∀ a ∈ as, ¬ Delimited (print a)) (hbs : ∀ b ∈ bs, ¬ Delimited (write b))
    (hitems : ∀ a ∈ as, ∀ b ∈ bs, CutAlike (print a) (write b) (content a = meaning b))
    {rest other : List Char} (hrest : Closes rest) (hother : Closes other)
    (h : joined (as.map print) ++ rest = joined (bs.map write) ++ other) :
    as.map content = bs.map meaning ∧ rest = other := by
  -- the first items end at one place because what stands behind each of them is delimited
  induction as generalizing bs with
  | nil =>
    cases bs with
    | nil => exact ⟨rfl, h⟩
    | cons b bs =>
      rw [List.map_cons, joined_cons_append] at h
      have hclosed : rest = write b ++ behind (bs.map write) other := h
      exact absurd (hclosed ▸ hrest.delimited) (not_delimited_append (hbs b List.mem_cons_self) _)
  | cons a as ih =>
    cases bs with
    | nil =>
      rw [List.map_cons, joined_cons_append] at h
      have hclosed : print a ++ behind (as.map print) rest = other := h
      exact absurd (hclosed ▸ hother.delimited) (not_delimited_append (has a List.mem_cons_self) _)
    | cons b bs =>
      rw [List.map_cons, List.map_cons, joined_cons_append, joined_cons_append] at h
      obtain ⟨hhead, htail⟩ := hitems a List.mem_cons_self b List.mem_cons_self _ _
        (delimited_behind hrest) (delimited_behind hother) h
      obtain ⟨hcontents, hends⟩ := ih (fun a ha => has a (List.mem_cons_of_mem _ ha))
        (fun b hb => hbs b (List.mem_cons_of_mem _ hb))
        (fun a ha b hb => hitems a (List.mem_cons_of_mem _ ha) b (List.mem_cons_of_mem _ hb))
        (joined_eq_of_behind_eq hrest hother htail)
      rw [List.map_cons, List.map_cons, hhead, hcontents]
      exact ⟨rfl, hends⟩

/-- A name with its items in brackets. -/
def called (name : List Char) (texts : List (List Char)) : List Char :=
  name ++ '(' :: (joined texts ++ [')'])

theorem called_cutAlike {name other : List Char} {as : List α} {bs : List β}
    (hname : IsWord name) (hother : IsWord other)
    (has : ∀ a ∈ as, ¬ Delimited (print a)) (hbs : ∀ b ∈ bs, ¬ Delimited (write b))
    (hitems : ∀ a ∈ as, ∀ b ∈ bs, CutAlike (print a) (write b) (content a = meaning b)) :
    CutAlike (called name (as.map print)) (called other (bs.map write))
      (name = other ∧ as.map content = bs.map meaning) := by
  intro rest after hrest hafter htext
  unfold called at htext
  rw [List.append_assoc, List.append_assoc, List.cons_append, List.cons_append] at htext
  obtain ⟨hnames, hbracket⟩ :=
    append_inj_of_ends hname hother (ends_cons (by decide)) (ends_cons (by decide)) htext
  have hrows := (List.cons.inj hbracket).2
  rw [List.append_assoc, List.append_assoc] at hrows
  obtain ⟨hcontents, hclosed⟩ :=
    joined_cutAlike content meaning has hbs hitems ⟨rest, .inl rfl⟩ ⟨after, .inl rfl⟩ hrows
  exact ⟨⟨hnames, hcontents⟩, (List.cons.inj hclosed).2⟩

end Rows

/-- One character for all that start the same kind of text: letters start a word, digits and a
minus sign a number, and any other character starts what only it starts. -/
def lead (c : Char) : Char :=
  if isLetter c then 'a' else if c.isDigit || c == '-' then '0' else c

def Leads (text : List Char) (start : Char) : Prop := ∃ c after, text = c :: after ∧ lead c = start

theorem Leads.append {text : List Char} {start : Char} (h : Leads text start) (rest : List Char) :
    Leads (text ++ rest) start := by
  obtain ⟨c, after, rfl, hlead⟩ := h
  exact ⟨c, after ++ rest, rfl, hlead⟩

theorem Leads.unique {text : List Char} {start other : Char} (h : Leads text start)
    (hother : Leads text other) : start = other := by
  obtain ⟨c, after, rfl, rfl⟩ := h
  obtain ⟨d, later, hcons, rfl⟩ := hother
  cases hcons
  rfl

theorem Leads.not_delimited {text : List Char} {start : Char} (h : Leads text start)
    (hcomma : start ≠ ',') (hbracket : start ≠ ')') : ¬ Delimited text := by
  obtain ⟨c, after, rfl, rfl⟩ := h
  intro hdelimited
  rcases hdelimited c rfl with rfl | rfl
  · exact hcomma (by decide)
  · exact hbracket (by decide)

/-- Texts need to be compared only where they start alike. -/
theorem cutAlike_of_leads {first second : List Char} {start other : Char} {same : Prop}
    (hfirst : Leads first start) (hsecond : Leads second other)
    (h : start = other → CutAlike first second same) : CutAlike first second same := by
  intro rest after hrest hafter htext
  have hstart : start = other := (hfirst.append rest).unique (htext ▸ hsecond.append after)
  exact h hstart rest after hrest hafter htext

theorem leads_of_isIdentifier {name : String} (h : isIdentifier name = true) :
    Leads name.toList 'a' := by
  obtain ⟨first, rest, hname, hletter, -⟩ := isIdentifier_iff.mp h
  exact ⟨first, rest, hname, if_pos hletter⟩

theorem isWord_of_isIdentifier {name : String} (h : isIdentifier name = true) :
    IsWord name.toList := by
  obtain ⟨first, rest, hname, hletter, hrest⟩ := isIdentifier_iff.mp h
  intro c hc
  rw [hname] at hc
  rcases List.mem_cons.mp hc with rfl | hmem
  · simp [isWordPart, isNamePart, hletter]
  · simp [isWordPart, hrest c hmem]

theorem le_toNat_of_isAlpha {c : Char} (h : c.isAlpha = true) : 65 ≤ c.toNat := by
  rcases Bool.or_eq_true_iff.mp h with hupper | hlower
  · exact UInt32.le_iff_toNat_le.mp (of_decide_eq_true hupper).1
  · obtain ⟨hleast, -⟩ := Bool.and_eq_true_iff.mp hlower
    have hle : 97 ≤ c.toNat := UInt32.le_iff_toNat_le.mp (of_decide_eq_true hleast)
    omega

/-- Digits stand in front of the letters of ASCII. -/
theorem isLetter_of_isDigit {c : Char} (h : c.isDigit = true) : isLetter c = false := by
  have hdigit : c.toNat ≤ 57 := (Char.isDigit_iff_toNat.mp h).2
  unfold isLetter
  apply Bool.or_eq_false_iff.mpr
  refine ⟨eq_false_of_ne_true fun halpha => ?_, decide_eq_false (by omega)⟩
  have hletter := le_toNat_of_isAlpha halpha
  omega

theorem mem_repr {number : Int} {c : Char} (h : c ∈ number.repr.toList) :
    c.isDigit = true ∨ c = '-' := by
  have hdigits : ∀ n : Nat, c ∈ n.repr.toList → c.isDigit = true := by
    intro n hmem
    rw [Nat.repr, String.toList_ofList] at hmem
    exact Nat.isDigit_of_mem_toDigits (by decide) (by decide) hmem
  cases number with
  | ofNat n => exact .inl (hdigits n h)
  | negSucc n =>
    rw [Int.repr, String.toList_append] at h
    rcases List.mem_append.mp h with hsign | hrest
    · exact .inr (List.mem_singleton.mp hsign)
    · exact .inl (hdigits _ hrest)

theorem repr_ne_nil (number : Int) : number.repr.toList ≠ [] := by
  intro h
  cases number with
  | ofNat n => exact Nat.repr_ne_empty (String.toList_eq_nil_iff.mp h)
  | negSucc n =>
    rw [Int.repr, String.toList_append] at h
    exact List.cons_ne_nil _ _ h

theorem leads_repr (number : Int) : Leads number.repr.toList '0' := by
  obtain ⟨c, after, htext⟩ := List.exists_cons_of_ne_nil (repr_ne_nil number)
  refine ⟨c, after, htext, ?_⟩
  rcases mem_repr (htext ▸ List.mem_cons_self : c ∈ number.repr.toList) with hdigit | rfl
  · rw [lead, isLetter_of_isDigit hdigit, hdigit]
    rfl
  · decide

theorem isWord_repr (number : Int) : IsWord number.repr.toList := by
  intro c hc
  rcases mem_repr hc with hdigit | rfl
  · simp [isWordPart, isNamePart, hdigit]
  · decide

end GuardedRules.Text
