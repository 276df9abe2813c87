import StackMachine.Proofs.Json.Tokens

/-!
# Passing over values of the grammar

Every value is passed over, whatever its nesting and its size. The open brackets are a parameter of
the main statement: passing over a value and then going on inside them is the same as going on
behind the value. It is proved along the grammar, although the code keeps the brackets in a list
and does not recur on the value.
-/

namespace StackMachine.Json

/-! ## Going on -/

/-- Passes over what a resumption leaves. -/
def proceed : Except Fault Resumption → Except Fault (List Char)
  | .error fault => .error fault
  | .ok (.complete rest) => .ok rest
  | .ok (.value brackets rest) => skipValues brackets rest

theorem skipValues_eq_proceed (brackets : List Bracket) (s : List Char) :
    skipValues brackets s = proceed (skipStart brackets s) := by
  rw [skipValues]
  unfold proceed
  split <;> simp_all

/-- Passes over an entry of a bracket and goes on inside the bracket. -/
def proceedLead (bracket : Bracket) (brackets : List Bracket) (s : List Char) :
    Except Fault (List Char) :=
  proceed ((bracket.skipLead s).map (.value (bracket :: brackets)))

theorem skipStart_skipBlanks (brackets : List Bracket) (s : List Char) :
    skipStart brackets (skipBlanks s) = skipStart brackets s := by
  rw [skipStart, skipStart, skipBlanks_skipBlanks]

/-- Blanks before an entry make no difference. -/
theorem proceedLead_skipBlanks (bracket : Bracket) (brackets : List Bracket) (s : List Char) :
    proceedLead bracket brackets (skipBlanks s) = proceedLead bracket brackets s := by
  cases bracket with
  | list =>
    show skipValues (.list :: brackets) (skipBlanks s) = skipValues (.list :: brackets) s
    rw [skipValues_eq_proceed, skipValues_eq_proceed, skipStart_skipBlanks]
  | object =>
    have hkey : skipKey (skipBlanks s) = skipKey s := by
      rw [skipKey, skipKey, skipBlanks_skipBlanks]
    rw [proceedLead, proceedLead, Bracket.skipLead, Bracket.skipLead, hkey]

theorem resume_append {a : List Char} (ha : Blanks a) (bracket : Bracket)
    (brackets : List Bracket) (s : List Char) :
    resume (bracket :: brackets) (a ++ s) = resume (bracket :: brackets) s := by
  rw [resume, resume, skipBlanks_append ha]

theorem resume_comma (bracket : Bracket) (brackets : List Bracket) (s : List Char) :
    proceed (resume (bracket :: brackets) (',' :: s)) = proceedLead bracket brackets s := by
  rw [resume, skipBlanks_cons rfl]
  rfl

theorem resume_closing (bracket : Bracket) (brackets : List Bracket) (s : List Char) :
    resume (bracket :: brackets) (bracket.closing :: s) = resume brackets s := by
  rw [resume, skipBlanks_cons bracket.isBlank_closing]
  cases bracket <;> rfl

/-! ## What is passed over -/

/-- A text that is passed over as a value, whatever the open brackets are. -/
def Passed (text : List Char) : Prop :=
  ∀ (brackets : List Bracket) (a rest : List Char), Blanks a → Stops rest →
    skipValues brackets (a ++ (text ++ rest)) = proceed (resume brackets rest)

/-- A text that is passed over as an entry of a bracket. -/
structure PassedEntry (bracket : Bracket) (entry : List Char) : Prop where
  start (rest : List Char) :
    ∃ c s, skipBlanks (entry ++ rest) = c :: s ∧ c ≠ bracket.closing
  lead (brackets : List Bracket) (rest : List Char) (hrest : Stops rest) :
    proceedLead bracket brackets (entry ++ rest) = proceed (resume (bracket :: brackets) rest)

/-- The entries that are left are passed over one after the other. -/
theorem proceed_remainder {bracket : Bracket} {entries : List (List Char)}
    (h : ∀ entry ∈ entries, PassedEntry bracket entry) (brackets : List Bracket)
    (rest : List Char) :
    proceed (resume (bracket :: brackets) (bracket.remainder entries rest)) =
      proceed (resume brackets rest) := by
  induction entries with
  | nil => rw [remainder_nil, resume_closing]
  | cons next entries ih =>
    have hnext := h next List.mem_cons_self
    rw [remainder_cons, resume_comma,
      hnext.lead brackets _ (stops_remainder bracket entries rest)]
    exact ih fun entry hentry => h entry (List.mem_cons_of_mem _ hentry)

/-- A bracket whose entries are passed over is passed over. -/
theorem proceed_enter {bracket : Bracket} {entries : List (List Char)} {inner : List Char}
    (h : ∀ entry ∈ entries, PassedEntry bracket entry) (henclosed : Encloses entries inner)
    (brackets : List Bracket) (rest : List Char) :
    proceed (enter bracket brackets (inner ++ bracket.closing :: rest)) =
      proceed (resume brackets rest) := by
  rcases henclosed.append_closing bracket rest with
    ⟨rfl, blanks, hblanks, htext⟩ | ⟨entry, others, rfl, htext⟩
  · rw [htext, enter, skipBlanks_append_cons hblanks bracket.isBlank_closing]
    simp only [if_true]
  · have hentry := h entry List.mem_cons_self
    obtain ⟨c, s, hskip, hc⟩ := hentry.start (bracket.remainder others rest)
    rw [htext, enter, hskip]
    simp only [if_neg hc]
    -- `enter` has skipped the blanks of the first entry already
    rw [← hskip]
    show proceedLead bracket brackets (skipBlanks _) = _
    rw [proceedLead_skipBlanks, hentry.lead brackets _ (stops_remainder bracket others rest)]
    exact proceed_remainder (fun entry h' => h entry (List.mem_cons_of_mem _ h')) brackets rest

/-! ## Entries -/

theorem passedEntry_item {tree : Tree} {a text b : List Char} (ha : Blanks a) (hb : Blanks b)
    (hitem : Renders tree text) (h : Passed text) : PassedEntry .list (a ++ text ++ b) := by
  constructor
  · intro rest
    obtain ⟨c, s, rfl, hc, hclosing⟩ := hitem.start
    refine ⟨c, s ++ (b ++ rest), ?_, hclosing .list⟩
    rw [List.append_assoc, List.append_assoc, List.cons_append, skipBlanks_append_cons ha hc]
  · intro brackets rest hrest
    show skipValues (.list :: brackets) _ = _
    rw [List.append_assoc, List.append_assoc, h _ a _ ha (stops_append hb hrest),
      resume_append hb]

theorem passedEntry_member {key : List Nat} {a body b c text d : List Char} (ha : Blanks a)
    (hb : Blanks b) (hc : Blanks c) (hd : Blanks d) (hkey : Spells key body) (h : Passed text) :
    PassedEntry .object (a ++ '"' :: body ++ '"' :: b ++ ':' :: c ++ text ++ d) := by
  constructor
  · intro rest
    exact ⟨'"', _, by rw [member_append, skipBlanks_append_cons ha rfl], by decide⟩
  · intro brackets rest hrest
    rw [member_append, proceedLead, Bracket.skipLead, skipKey_of_spells ha hkey hb]
    show skipValues (.object :: brackets) _ = _
    rw [h _ c _ hc (stops_append hd hrest), resume_append hd]

/-! ## Values -/

/-- Passing over a value starts at the value. -/
theorem Renders.passed {tree : Tree} {text : List Char} (h : Renders tree text)
    (hstart : ∀ brackets rest, Stops rest →
      proceed (skipStart brackets (text ++ rest)) = proceed (resume brackets rest)) :
    Passed text := by
  intro brackets a rest ha hrest
  rw [skipValues_eq_proceed, ← skipStart_skipBlanks, h.skipBlanks_append ha]
  exact hstart brackets rest hrest

theorem skipStart_of_numberText {literal : Literal} {text rest : List Char}
    (h : NumberText literal text) (hrest : Stops rest) (brackets : List Bracket) :
    skipStart brackets (text ++ rest) = resume brackets rest := by
  have hskip := skipNumber_of_numberText h hrest
  have hblanks := (Renders.number h).skipBlanks_append blanks_nil rest
  obtain ⟨c, s, rfl, hc⟩ := h.start
  rw [List.nil_append, List.cons_append] at hblanks
  rw [List.cons_append] at hskip ⊢
  rw [skipStart, hblanks]
  have hother : c ≠ '[' ∧ c ≠ '{' ∧ c ≠ '"' ∧ c ≠ 'n' ∧ c ≠ 't' ∧ c ≠ 'f' := by
    refine ⟨?_, ?_, ?_, ?_, ?_, ?_⟩ <;> exact ne_of_numberStart hc (by decide)
  split
  case h_8 heq =>
    obtain ⟨rfl, rfl⟩ := List.cons.inj heq
    rw [if_pos hc, hskip]
  all_goals simp_all

mutual

/-- Every value is passed over. -/
theorem passed_of_renders : ∀ {tree : Tree} {text : List Char}, Renders tree text → Passed text
  | _, _, .null => Renders.null.passed fun _ _ _ => rfl
  | _, _, .trueWord => Renders.trueWord.passed fun _ _ _ => rfl
  | _, _, .falseWord => Renders.falseWord.passed fun _ _ _ => rfl
  | _, _, .number h => (Renders.number h).passed fun brackets rest hrest =>
      congrArg proceed (skipStart_of_numberText h hrest brackets)
  | _, _, .string h => (Renders.string h).passed fun brackets rest _ => by
      rw [List.append_assoc, List.cons_append, skipStart, skipBlanks_cons rfl]
      simp only [List.singleton_append, skipString_of_spells h]
  | _, _, .list h henclosed => (Renders.list h henclosed).passed fun brackets rest _ => by
      rw [List.append_assoc, List.cons_append, skipStart, skipBlanks_cons rfl]
      exact proceed_enter (passed_of_rendersItems h) henclosed brackets rest
  | _, _, .object h henclosed => (Renders.object h henclosed).passed fun brackets rest _ => by
      rw [List.append_assoc, List.cons_append, skipStart, skipBlanks_cons rfl]
      exact proceed_enter (passed_of_rendersMembers h) henclosed brackets rest

theorem passed_of_rendersItems : ∀ {items : List Tree} {entries : List (List Char)},
    RendersItems items entries → ∀ entry ∈ entries, PassedEntry .list entry
  | _, _, .nil => by
    intro entry hentry
    simp at hentry
  | _, _, .cons ha hb hitem h => by
    intro entry hentry
    rcases List.mem_cons.mp hentry with rfl | hentry
    · exact passedEntry_item ha hb hitem (passed_of_renders hitem)
    · exact passed_of_rendersItems h entry hentry

theorem passed_of_rendersMembers : ∀ {members : List (List Nat × Tree)}
    {entries : List (List Char)}, RendersMembers members entries →
    ∀ entry ∈ entries, PassedEntry .object entry
  | _, _, .nil => by
    intro entry hentry
    simp at hentry
  | _, _, .cons ha hb hc hd hkey hvalue h => by
    intro entry hentry
    rcases List.mem_cons.mp hentry with rfl | hentry
    · exact passedEntry_member ha hb hc hd hkey (passed_of_renders hvalue)
    · exact passed_of_rendersMembers h entry hentry

end

/-- Passing over a value leaves what stands behind it. -/
theorem skipValue_of_renders {tree : Tree} {text : List Char} (h : Renders tree text)
    {a rest : List Char} (ha : Blanks a) (hrest : Stops rest) :
    skipValue (a ++ (text ++ rest)) = .ok rest :=
  passed_of_renders h [] a rest ha hrest

end StackMachine.Json
