import SchedLatency.Journal

/-! The phases in a journal and the messages that report them. Main statement: `filter_messages`,
every report of a change of phase starts from the phase that was in force. -/
namespace SchedLatency

@[simp] theorem toString_text (s : String) : toString s = s := rfl

def phases (events : List Event) : List Phase :=
  events.filterMap fun
    | .entered phase => some phase
    | _ => none

def phaseChange (old new : Phase) : Message :=
  ⟨.debug, .runner, s!"RUN PHASE: {old.label} -> {new.label}"⟩

/-- Whether a message has the form of a report of a change of phase. -/
def isPhaseChange (m : Message) : Bool :=
  m.source = .runner && "RUN PHASE: ".toList.isPrefixOf m.text.toList

/-- No message of its own has that form. -/
def Quiet (events : List Event) : Prop := ∀ m, .logged m ∈ events → isPhaseChange m = false

@[simp] theorem phases_nil : phases [] = [] := rfl

@[simp] theorem phases_entered (phase : Phase) (events : List Event) :
    phases (.entered phase :: events) = phase :: phases events := rfl

@[simp] theorem phases_probeEnded (exit : Exit) (events : List Event) :
    phases (.probeEnded exit :: events) = phases events := rfl

@[simp] theorem phases_append (xs ys : List Event) : phases (xs ++ ys) = phases xs ++ phases ys := by
  simp [phases]

/-- The first letter tells. -/
theorem not_isPrefixOf {text : List Char} (other : text.head? ≠ some c) (word : List Char) :
    (c :: word).isPrefixOf text = false := by
  cases text with
  | nil => rfl
  | cons d text =>
    have differ : ¬ c = d := by
      rintro rfl
      exact other rfl
    simp [List.isPrefixOf, differ]

theorem exists_head?_number (n : Nat) (rest : String) :
    ∃ d, (toString n ++ rest).toList.head? = some d ∧ d.isDigit = true := by
  rw [String.toList_append, Nat.toString_eq_ofList_toDigits, String.toList_ofList]
  cases digits : Nat.toDigits 10 n with
  | nil => exact absurd digits Nat.toDigits_ne_nil
  | cons d more =>
    have digit : d.isDigit = true :=
      Nat.isDigit_of_mem_toDigits (by decide) (by decide) (digits ▸ List.mem_cons_self)
    exact ⟨d, rfl, digit⟩

theorem not_isPhaseChange {m : Message} (other : m.text.toList.head? ≠ some 'R') :
    isPhaseChange m = false := by
  have word : "RUN PHASE: ".toList = 'R' :: "UN PHASE: ".toList := rfl
  rw [isPhaseChange, word, not_isPrefixOf other, Bool.and_false]

theorem not_isPhaseChange_of_number {m : Message} (n : Nat) (text : m.text = toString n ++ rest) :
    isPhaseChange m = false := by
  obtain ⟨d, head, digit⟩ := exists_head?_number n rest
  apply not_isPhaseChange
  rw [text, head]
  rintro ⟨⟩
  exact absurd digit (by decide)

theorem isPhaseChange_phaseChange (old new : Phase) : isPhaseChange (phaseChange old new) = true := by
  have text : (phaseChange old new).text.toList =
      "RUN PHASE: ".toList ++ (old.label ++ " -> " ++ new.label).toList := by simp [phaseChange]
  simp only [isPhaseChange, text, List.isPrefixOf_iff_prefix, List.prefix_append, Bool.and_eq_true]
  exact ⟨rfl, trivial⟩

theorem filter_messages (start : Phase) (events : List Event) (quiet : Quiet events) :
    (messages start events).filter isPhaseChange =
      List.zipWith phaseChange (start :: phases events) (phases events) := by
  induction events generalizing start with
  | nil => rfl
  | cons e events ih =>
    have rest : Quiet events := fun m member => quiet m (List.mem_cons_of_mem e member)
    cases e with
    | entered next =>
      have report := isPhaseChange_phaseChange start next
      simp only [phaseChange] at report
      simp only [messages, List.filter_cons, report, ih next rest]
      rfl
    | logged m => simpa [messages, phases, quiet m (by simp)] using ih start rest
    | _ => simpa [messages, phases] using ih start rest

def logged (events : List Event) : List Message :=
  events.filterMap fun
    | .logged m => some m
    | _ => none

@[simp] theorem logged_append (xs ys : List Event) : logged (xs ++ ys) = logged xs ++ logged ys := by
  simp [logged]

@[simp] theorem logged_map_logged (ms : List Message) : logged (ms.map .logged) = ms := by
  rw [logged, List.filterMap_map]
  exact List.filterMap_some

theorem mem_logged {m : Message} {events : List Event} : m ∈ logged events ↔ .logged m ∈ events := by
  constructor
  · intro member
    obtain ⟨e, among, found⟩ := List.mem_filterMap.mp member
    cases e with
    | logged m' => rwa [← Option.some.inj found]
    | _ => cases found
  · exact fun member => List.mem_filterMap.mpr ⟨_, member, rfl⟩

/-- A selection that leaves out the changes of phase sees only these. -/
theorem filter_messages_logged (p : Message → Bool) (unchanged : ∀ old new, p (phaseChange old new) = false)
    (start : Phase) (events : List Event) :
    (messages start events).filter p = (logged events).filter p := by
  induction events generalizing start with
  | nil => rfl
  | cons e events ih =>
    cases e with
    | entered next =>
      have first : messages start (.entered next :: events) =
        phaseChange start next :: messages next events := rfl
      rw [first, List.filter_cons_of_neg (by simp [unchanged]), ih next]
      rfl
    | logged m =>
      have rest := ih start
      by_cases kept : p m = true <;> simpa [messages, logged, List.filter_cons, kept] using rest
    | _ => simpa [messages, logged] using ih start

end SchedLatency
