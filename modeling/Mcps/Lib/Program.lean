import Mathlib.Tactic

/-!
# Programs that ask their surroundings

A program is done, or it asks for something and goes on with the reply.  An exchange is a
request with the reply to it.  `Runs` says that a program ends with a value after a list
of exchanges, and `Follows` that it has got as far as the list, so a program that is cut
off anywhere follows what it exchanged.

Several programs that run at once share one log of occurrences.  Each occurrence names
the program that asked and the time on the surroundings' clock, and the exchanges of one
program are its own part of the log.
-/

inductive Program {κ : Type} (reply : κ → Type) (α : Type) where
  | done (value : α)
  | ask (request : κ) (resume : reply request → Program reply α)

namespace Program

open List

variable {κ : Type} {reply : κ → Type} {α β : Type}

def bind (program : Program reply α) (next : α → Program reply β) : Program reply β :=
  match program with
  | done value => next value
  | ask request resume => ask request fun answer => (resume answer).bind next

instance : Monad (Program reply) where
  pure := done
  bind := bind

/-- Ask and return the reply. -/
def request (asked : κ) : Program reply (reply asked) := ask asked done

/-! ## Exchanges -/

/-- The program ends with the result after exactly these exchanges. -/
def Runs : Program reply α → List (Sigma reply) → α → Prop
  | done value, exchanges, result => exchanges = [] ∧ value = result
  | ask request resume, exchanges, result =>
    ∃ answer rest, exchanges = ⟨request, answer⟩ :: rest ∧ (resume answer).Runs rest result

/-- The program has made exactly these exchanges so far. -/
def Follows : Program reply α → List (Sigma reply) → Prop
  | done _, exchanges => exchanges = []
  | ask request resume, exchanges =>
    exchanges = [] ∨
      ∃ answer rest, exchanges = ⟨request, answer⟩ :: rest ∧ (resume answer).Follows rest

variable {program : Program reply α} {next : α → Program reply β}
  {exchanges : List (Sigma reply)}

@[simp] theorem runs_pure {value result : α} :
    (pure value : Program reply α).Runs exchanges result ↔ exchanges = [] ∧ value = result :=
  Iff.rfl

@[simp] theorem follows_pure {value : α} :
    (pure value : Program reply α).Follows exchanges ↔ exchanges = [] :=
  Iff.rfl

@[simp] theorem runs_request_bind {asked : κ} {next : reply asked → Program reply β} {result : β} :
    (request asked >>= next).Runs exchanges result ↔
      ∃ answer rest, exchanges = ⟨asked, answer⟩ :: rest ∧ (next answer).Runs rest result :=
  Iff.rfl

@[simp] theorem follows_request_bind {asked : κ} {next : reply asked → Program reply β} :
    (request asked >>= next).Follows exchanges ↔
      exchanges = [] ∨
        ∃ answer rest, exchanges = ⟨asked, answer⟩ :: rest ∧ (next answer).Follows rest :=
  Iff.rfl

theorem runs_bind {result : β} :
    (program >>= next).Runs exchanges result ↔
      ∃ value first rest, exchanges = first ++ rest ∧ program.Runs first value ∧
        (next value).Runs rest result := by
  induction program generalizing exchanges with
  | done value =>
    constructor
    · intro runs
      exact ⟨value, [], exchanges, rfl, ⟨rfl, rfl⟩, runs⟩
    · rintro ⟨_, _, rest, rfl, ⟨rfl, rfl⟩, runs⟩
      exact runs
  | ask request resume ih =>
    constructor
    · rintro ⟨answer, rest, rfl, runs⟩
      obtain ⟨value, first, later, rfl, made, runs⟩ := (ih answer).mp runs
      exact ⟨value, ⟨request, answer⟩ :: first, later, rfl, ⟨answer, first, rfl, made⟩, runs⟩
    · rintro ⟨value, _, later, rfl, ⟨answer, first, rfl, made⟩, runs⟩
      exact ⟨answer, first ++ later, rfl, (ih answer).mpr ⟨value, first, later, rfl, made, runs⟩⟩

@[simp] theorem follows_nil (program : Program reply α) : program.Follows [] := by
  cases program with
  | done value => rfl
  | ask request resume => exact .inl rfl

theorem follows_bind :
    (program >>= next).Follows exchanges ↔
      program.Follows exchanges ∨
        ∃ value first rest, exchanges = first ++ rest ∧ program.Runs first value ∧
          (next value).Follows rest := by
  induction program generalizing exchanges with
  | done value =>
    constructor
    · intro follows
      exact .inr ⟨value, [], exchanges, rfl, ⟨rfl, rfl⟩, follows⟩
    · rintro (rfl | ⟨_, _, rest, rfl, ⟨rfl, rfl⟩, follows⟩)
      · exact follows_nil _
      · exact follows
  | ask request resume ih =>
    constructor
    · rintro (rfl | ⟨answer, rest, rfl, follows⟩)
      · exact .inl (.inl rfl)
      · rcases (ih answer).mp follows with follows | ⟨value, first, later, rfl, made, follows⟩
        · exact .inl (.inr ⟨answer, rest, rfl, follows⟩)
        · exact .inr ⟨value, ⟨request, answer⟩ :: first, later, rfl,
            ⟨answer, first, rfl, made⟩, follows⟩
    · rintro ((rfl | ⟨answer, rest, rfl, follows⟩) |
        ⟨value, _, later, rfl, ⟨answer, first, rfl, made⟩, follows⟩)
      · exact .inl rfl
      · exact .inr ⟨answer, rest, rfl, (ih answer).mpr (.inl follows)⟩
      · exact .inr ⟨answer, first ++ later, rfl,
          (ih answer).mpr (.inr ⟨value, first, later, rfl, made, follows⟩)⟩

theorem Runs.follows {result : α} (runs : program.Runs exchanges result) :
    program.Follows exchanges := by
  induction program generalizing exchanges with
  | done value => exact runs.1
  | ask request resume ih =>
    obtain ⟨answer, rest, rfl, runs⟩ := runs
    exact .inr ⟨answer, rest, rfl, ih answer runs⟩

theorem Runs.follows_of_append {result : α} (later : List (Sigma reply))
    (runs : program.Runs (exchanges ++ later) result) : program.Follows exchanges := by
  induction program generalizing exchanges with
  | done value => exact (append_eq_nil_iff.mp runs.1).1
  | ask request resume ih =>
    cases exchanges with
    | nil => exact .inl rfl
    | cons first rest =>
      obtain ⟨answer, _, same, runs⟩ := runs
      cases same
      exact .inr ⟨answer, rest, rfl, ih answer runs⟩

theorem runs_bind_pure {image : α → β} {result : β} :
    (program >>= fun value => pure (image value)).Runs exchanges result ↔
      ∃ value, program.Runs exchanges value ∧ image value = result := by
  rw [runs_bind]
  constructor
  · rintro ⟨value, _, _, rfl, made, rfl, rfl⟩
    exact ⟨value, by rwa [append_nil], rfl⟩
  · rintro ⟨value, made, rfl⟩
    exact ⟨value, exchanges, [], (append_nil _).symm, made, rfl, rfl⟩

theorem follows_bind_pure {image : α → β} :
    (program >>= fun value => pure (image value)).Follows exchanges ↔
      program.Follows exchanges := by
  rw [follows_bind]
  constructor
  · rintro (follows | ⟨_, _, _, rfl, made, rfl⟩)
    · exact follows
    · rw [append_nil]
      exact made.follows
  · exact .inl

/-! ## How often a program asks -/

/-- Of a kind of request, the program makes at most so many. -/
def AtMost (program : Program reply α) (kind : κ → Bool) (bound : Nat) : Prop :=
  ∀ exchanges, program.Follows exchanges → (exchanges.countP fun made => kind made.1) ≤ bound

variable {kind : κ → Bool} {bound rest : Nat}

theorem atMost_pure (value : α) : (pure value : Program reply α).AtMost kind bound := by
  rintro _ rfl
  exact Nat.zero_le bound

theorem atMost_request {asked : κ} (counted : kind asked = true → 1 ≤ bound) :
    (request asked : Program reply (reply asked)).AtMost kind bound := by
  rintro _ (rfl | ⟨_, _, rfl, rfl⟩)
  · exact Nat.zero_le bound
  · by_cases matched : kind asked = true
    · simpa [matched] using counted matched
    · simp [matched]

theorem AtMost.bind {total : Nat} (first : program.AtMost kind bound)
    (second : ∀ value, (next value).AtMost kind rest) (fits : bound + rest ≤ total) :
    (program >>= next).AtMost kind total := by
  intro exchanges follows
  rcases follows_bind.mp follows with follows | ⟨value, made, later, rfl, runs, follows⟩
  · exact (first exchanges follows).trans ((Nat.le_add_right bound rest).trans fits)
  · rw [countP_append]
    exact (Nat.add_le_add (first made runs.follows) (second value later follows)).trans fits

end Program

/-! ## Interleaved programs -/

/-- One exchange of one of several programs, at a time on the surroundings' clock. -/
structure Occurrence (ι : Type) {κ : Type} (reply : κ → Type) where
  process : ι
  time : Int
  exchange : Sigma reply

namespace Occurrence

variable {ι κ : Type} {reply : κ → Type} [DecidableEq ι] {process : ι}
  {log : List (Occurrence ι reply)}

/-- The exchanges of one program. -/
def own (process : ι) (log : List (Occurrence ι reply)) : List (Sigma reply) :=
  (log.filter fun occurrence => occurrence.process = process).map exchange

theorem mem_own {exchange : Sigma reply} :
    exchange ∈ own process log ↔ ∃ time, ⟨process, time, exchange⟩ ∈ log := by
  constructor
  · intro member
    obtain ⟨⟨_, time, _⟩, kept, rfl⟩ := List.mem_map.mp member
    obtain ⟨held, isOwn⟩ := List.mem_filter.mp kept
    cases of_decide_eq_true isOwn
    exact ⟨time, held⟩
  · rintro ⟨time, held⟩
    exact List.mem_map.mpr ⟨_, List.mem_filter.mpr ⟨held, decide_eq_true rfl⟩, rfl⟩

theorem own_eq_cons {first : Sigma reply} {rest : List (Sigma reply)}
    (starts : own process log = first :: rest) :
    ∃ before time after, log = before ++ ⟨process, time, first⟩ :: after ∧
      own process after = rest := by
  obtain ⟨⟨_, time, _⟩, others, kept, rfl, others⟩ := List.map_eq_cons_iff.mp starts
  obtain ⟨before, after, rfl, _, isOwn, keptRest⟩ := List.filter_eq_cons_iff.mp kept
  cases of_decide_eq_true isOwn
  refine ⟨before, time, after, rfl, ?_⟩
  rw [own, keptRest, others]

end Occurrence
