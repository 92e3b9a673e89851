import Gateway.Proofs.HeadSearch
import Gateway.Proofs.Relaying

/-!
# No byte is lost

A reader may be asked for heads, lines and bytes in any order, with any limits,
and again after a failure. Each answer takes what it gives off the front of the
view, behind the line ends that are skipped in front of a head, and an answer
that gives nothing takes nothing else. So what was skipped and given so far,
what is buffered, and what is to come are at any time the bytes that the reader
began with, in their order.

* `Reader.Took` says what an answer takes off the view, `Reader.took_answer`
  that every answer does;
* `Reader.answers_account`: what becomes of all bytes over any demands.
-/

namespace Gateway

/-! ## Reads that fail -/

/-- A source that fails has nothing to come. -/
theorem Source.remaining_of_read_error {room : Nat} {s t : Source} {stop : Stop}
    (h : s.read room = (.error stop, t)) :
    s.remaining = [] ∧ t.remaining = [] := by
  rcases Nat.eq_zero_or_pos room with rfl | hroom
  · rw [read, if_pos rfl] at h
    cases h
  · rcases s.read_cases hroom with ⟨hnil, hread⟩ | ⟨piece, rest, -, -, hread⟩
    · rw [h, Prod.mk.injEq] at hread
      obtain ⟨-, rfl⟩ := hread
      exact ⟨hnil, rfl⟩
    · rw [h] at hread
      cases hread

/-- A reader that fails to give bytes has none, neither buffered nor to come. -/
theorem Reader.remaining_of_readSome_error {room : Nat} {r t : Reader}
    {stop : Stop} (h : r.readSome room = (.error stop, t)) :
    r.remaining = [] ∧ t.remaining = [] := by
  by_cases hb : r.buffer = []
  · rw [readSome, if_pos hb] at h
    rcases hread : r.source.read room with ⟨result, source⟩
    rw [hread] at h
    cases h
    simpa [remaining, hb] using Source.remaining_of_read_error hread
  · rw [readSome, if_neg hb] at h
    cases h

/-! ## Demands and answers -/

/-- Something that a reader is asked for. -/
inductive Demand where
  /-- A head of at most `max` bytes. -/
  | head (max : Nat)
  /-- A line, which shows its end before more than `max` bytes have arrived. -/
  | line (max : Nat)
  /-- At most `room` bytes. -/
  | bytes (room : Nat)
  deriving DecidableEq, Repr

/-- What a reader answers. -/
inductive Reply where
  /-- To the request for a head. -/
  | head (result : Except HeadError (Option Bytes))
  /-- To the request for a line. -/
  | line (result : Except LineError (Option Bytes))
  /-- To the request for bytes. -/
  | bytes (result : Except Stop Bytes)
  deriving Repr

namespace Reply

/-- The bytes that an answer gives; none if what was asked for could not be
read. -/
def given? : Reply → Option Bytes
  | .head result => result.toOption.join
  | .line result => result.toOption.join
  | .bytes result => result.toOption

/-- The bytes that an answer gives. -/
def given (reply : Reply) : Bytes :=
  reply.given?.getD []

end Reply

namespace Reader

/-- Answers to one demand. -/
def answer (r : Reader) : Demand → Reply × Reader
  | .head max => (.head (r.readHead max).1, (r.readHead max).2)
  | .line max => (.line (r.readLine max).1, (r.readLine max).2)
  | .bytes room => (.bytes (r.readSome room).1, (r.readSome room).2)

/-- Answers to one demand after the other, whatever becomes of each. -/
def answers (r : Reader) : List Demand → List Reply × Reader
  | [] => ([], r)
  | demand :: demands =>
    let (reply, t) := r.answer demand
    let (replies, t) := t.answers demands
    (reply :: replies, t)

/-- What an answer takes off the front of the view: some line ends, and what it
gives. -/
structure Took (r : Reader) (demand : Demand) (skipped : Nat) (reply : Reply)
    (t : Reader) : Prop where
  /-- They stood at the front. -/
  taken : r.remaining = lineEnds skipped ++ reply.given ++ t.remaining
  /-- Line ends are skipped in front of a head only. -/
  skips : (∀ max, demand ≠ .head max) → skipped = 0

theorem Took.taken_of_none {r t : Reader} {demand : Demand} {skipped : Nat}
    {reply : Reply} (h : Took r demand skipped reply t)
    (hnone : reply.given? = none) :
    r.remaining = lineEnds skipped ++ t.remaining := by
  have htaken := h.taken
  rw [Reply.given, hnone] at htaken
  simpa using htaken

/-- **The request for a head takes the line ends in front**, and the head if one
is given. -/
theorem took_readHead (max : Nat) (r : Reader) :
    ∃ skipped, Took r (.head max) skipped (.head (r.readHead max).1)
      (r.readHead max).2 := by
  have settled : ∀ (held : Bytes) (pieces : List Bytes) (given left : Bytes),
      dropLineEnds held = given ++ left →
      ∃ skipped, held ++ pieces.flatten =
        lineEnds skipped ++ given ++ (left ++ pieces.flatten) := by
    intro held pieces given left h
    obtain ⟨skipped, hskipped⟩ := exists_lineEnds held
    refine ⟨skipped, ?_⟩
    rw [h] at hskipped
    simp [hskipped]
  have key : ∀ held pieces, ∃ skipped, held ++ pieces.flatten =
      lineEnds skipped ++ Reply.given (.head (readHeadAnew.go max r held pieces).1) ++
        (readHeadAnew.go max r held pieces).2.remaining := by
    intro held pieces
    fun_induction readHeadAnew.go max r held pieces with
    | case1 pieces held => exact settled held pieces [] _ rfl
    | case2 pieces held _ _ n =>
      exact settled held pieces _ _ (List.take_append_drop n _).symm
    | case3 pieces held => exact settled held pieces [] _ rfl
    | case4 held _ _ _ piece rest ih =>
      -- the line ends that were skipped so far, then those that the next piece
      -- brings
      obtain ⟨more, hmore⟩ := ih
      obtain ⟨skipped, hskipped⟩ := settled held [piece, rest.flatten] [] _ rfl
      refine ⟨skipped + more, ?_⟩
      rw [lineEnds_add, List.append_assoc, List.append_assoc,
        ← List.append_assoc (lineEnds more), ← hmore]
      simpa using hskipped
    | case5 held =>
      obtain ⟨skipped, hskipped⟩ := settled held [] [] _ rfl
      refine ⟨skipped, ?_⟩
      split <;> exact hskipped
    | case6 held => exact settled held [] [] _ rfl
    | case7 held => exact settled held [] [] _ rfl
  obtain ⟨skipped, hskipped⟩ := key r.buffer r.source.pieces
  rw [readHead_eq_readHeadAnew]
  exact ⟨skipped, hskipped, fun h => absurd rfl (h max)⟩

/-- **The request for a line takes the line**, if one is given. -/
theorem took_readLine (max : Nat) (r : Reader) :
    Took r (.line max) 0 (.line (r.readLine max).1) (r.readLine max).2 := by
  have key : ∀ buffer scanned pieces, buffer ++ pieces.flatten =
      Reply.given (.line (readLine.go max r buffer scanned pieces).1) ++
        (readLine.go max r buffer scanned pieces).2.remaining := by
    intro buffer scanned pieces
    fun_induction readLine.go max r buffer scanned pieces with
    | case1 pieces buffer _ _ n =>
      change buffer ++ pieces.flatten =
        buffer.take n ++ (buffer.drop n ++ pieces.flatten)
      rw [← List.append_assoc, List.take_append_drop]
    | case2 => rfl
    | case3 _ _ _ _ _ _ ih => simpa using ih
    | case4 => rfl
    | case5 => rfl
    | case6 => rfl
  exact ⟨key r.buffer 0 r.source.pieces, fun _ => rfl⟩

/-- **The request for bytes takes the bytes** that are given. -/
theorem took_readSome (room : Nat) (r : Reader) :
    Took r (.bytes room) 0 (.bytes (r.readSome room).1) (r.readSome room).2 := by
  refine ⟨?_, fun _ => rfl⟩
  rcases hread : r.readSome room with ⟨stop | bs, t⟩
  · obtain ⟨hr, ht⟩ := remaining_of_readSome_error hread
    rw [hr]
    exact ht.symm
  · exact remaining_readSome hread

/-- **Every answer takes what it gives off the front of the view**, and skips
line ends in front of a head at most. -/
theorem took_answer (r : Reader) (demand : Demand) :
    ∃ skipped, Took r demand skipped (r.answer demand).1 (r.answer demand).2 := by
  cases demand with
  | head max => exact took_readHead max r
  | line max => exact ⟨0, took_readLine max r⟩
  | bytes room => exact ⟨0, took_readSome room r⟩

/-! ## One demand after the other -/

/-- The bytes that are gone after some answers: the line ends that each skipped,
and what it gave. -/
def consumed (skips : List Nat) (replies : List Reply) : Bytes :=
  (List.zipWith (fun skipped reply => lineEnds skipped ++ reply.given) skips replies).flatten

theorem consumed_nil (skips : List Nat) : consumed skips [] = [] := by
  simp [consumed]

theorem consumed_cons (skipped : Nat) (skips : List Nat) (reply : Reply)
    (replies : List Reply) :
    consumed (skipped :: skips) (reply :: replies) =
      lineEnds skipped ++ reply.given ++ consumed skips replies :=
  rfl

theorem answers_cons (r : Reader) (demand : Demand) (demands : List Demand) :
    r.answers (demand :: demands) =
      ((r.answer demand).1 :: ((r.answer demand).2.answers demands).1,
        ((r.answer demand).2.answers demands).2) :=
  rfl

/-- **What is gone after some answers is what each of them took**, and what is
left is the view. -/
theorem answers_took (r : Reader) (demands : List Demand) :
    ∃ skips : List Nat, skips.length = demands.length ∧
      ∀ i, r.remaining =
          consumed skips (r.answers (demands.take i)).1 ++
            (r.answers (demands.take i)).2.remaining ∧
        ∀ demand skipped, demands[i]? = some demand → skips[i]? = some skipped →
          Took (r.answers (demands.take i)).2 demand skipped
            ((r.answers (demands.take i)).2.answer demand).1
              ((r.answers (demands.take i)).2.answer demand).2 := by
  induction demands generalizing r with
  | nil => exact ⟨[], rfl, fun i => by simp [answers, consumed_nil]⟩
  | cons first demands ih =>
    obtain ⟨skipped, htook⟩ := r.took_answer first
    obtain ⟨skips, hlength, hskips⟩ := ih (r.answer first).2
    refine ⟨skipped :: skips, by simp [hlength], fun i => ?_⟩
    cases i with
    | zero =>
      refine ⟨by simp [answers, consumed_nil], fun demand count hdemand hcount => ?_⟩
      cases hdemand
      cases hcount
      exact htook
    | succ i =>
      obtain ⟨hview, hnext⟩ := hskips i
      rw [List.take_succ_cons, answers_cons, consumed_cons]
      refine ⟨?_, hnext⟩
      rw [htook.taken, hview]
      simp only [List.append_assoc]

/-- **No byte is lost, given twice or out of order**, whatever a reader is asked
for and whatever fails. After any number `i` of demands the bytes that it began
with are the line ends that were skipped and the bytes that were given so far,
in this order, then what is buffered, then what has not been read. Line ends are
skipped for demands for a head only; and a demand that is not met takes nothing
but line ends. -/
theorem answers_account (r : Reader) (demands : List Demand) :
    ∃ skips : List Nat, skips.length = demands.length ∧
      ∀ i,
        let replies := (r.answers (demands.take i)).1
        let t := (r.answers (demands.take i)).2
        r.remaining = consumed skips replies ++ t.buffer ++ t.source.remaining ∧
        ∀ demand skipped, demands[i]? = some demand → skips[i]? = some skipped →
          ((∀ max, demand ≠ .head max) → skipped = 0) ∧
          ((t.answer demand).1.given? = none →
            t.remaining = lineEnds skipped ++ (t.answer demand).2.remaining) := by
  obtain ⟨skips, hlength, hskips⟩ := r.answers_took demands
  refine ⟨skips, hlength, fun i => ?_⟩
  obtain ⟨hview, htook⟩ := hskips i
  refine ⟨hview.trans (List.append_assoc _ _ _).symm,
    fun demand skipped hdemand hskipped => ?_⟩
  have h := htook demand skipped hdemand hskipped
  exact ⟨h.skips, h.taken_of_none⟩

end Reader

end Gateway
