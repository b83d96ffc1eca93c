import PgSession.Proofs.Utterances

/-!
Where a handshake begins to receive messages. Once the server has answered about encryption, the
reads come in pairs, a header and a body, and every pair is a whole message. So what was read before
a header is that answer and whole messages.
-/

namespace PgSession.Proofs
open Wire Session

variable {τ α β : Type} [Transport τ]

/-- How many bytes a call took from the stream. -/
def takenBy : Call → Nat
  | .read count _ true => count
  | _ => 0

def taken : List Call → Nat
  | [] => 0
  | call :: calls => takenBy call + taken calls

def isRead : Call → Bool
  | .read .. => true
  | _ => false

def readCount (calls : List Call) : Nat := calls.countP isRead

/-- A message begins at this position: a header is read there. The answer about encryption takes one
read, and every message before takes two. -/
def Begins (config : Config) (calls : List Call) (position : Nat) : Prop :=
  ∃ before timeout succeeded after, calls = before ++ .read headerSize timeout succeeded :: after ∧
    (∃ messages, readCount before = answerSize config + 2 * messages) ∧ taken before = position

theorem taken_append (calls more : List Call) :
    taken (calls ++ more) = taken calls + taken more := by
  induction calls with
  | nil => exact (Nat.zero_add _).symm
  | cons call calls ih => simp only [List.cons_append, taken, ih, Nat.add_assoc]

private theorem readCount_append (calls more : List Call) :
    readCount (calls ++ more) = readCount calls + readCount more := List.countP_append ..

/-- What was read is whole messages, and the calls say how much it was. -/
def Whole (link : τ) (calls : List Call) : Prop :=
  ∃ whole : List Frame, (∀ frame ∈ whole, frame.Fits) ∧
    heard link calls = whole.flatMap Frame.bytes ∧ taken calls = (heard link calls).length

theorem Whole.append {link : τ} {calls more : List Call} (first : Whole link calls)
    (second : Whole (replay link calls) more) : Whole link (calls ++ more) := by
  obtain ⟨whole, fit, same, length⟩ := first
  obtain ⟨others, fit', same', length'⟩ := second
  refine ⟨whole ++ others, ?_, ?_, ?_⟩
  · exact fun frame member => (List.mem_append.mp member).elim (fit frame) (fit' frame)
  · rw [heard_append, same, same', List.flatMap_append]
  · rw [taken_append, heard_append, List.length_append, length, length']

/-- Every second read begins a message, and none is left unfinished unless something failed. -/
structure Paired (link : τ) (calls : List Call) (result : Except (Halt Error) α) : Prop where
  begins : ∀ {before count timeout succeeded after},
    calls = before ++ .read count timeout succeeded :: after → 2 ∣ readCount before →
      Whole link before
  done : ∀ value, result = .ok value → 2 ∣ readCount calls ∧ Whole link calls

namespace Paired

variable {link : τ} {calls more : List Call} {result : Except (Halt Error) α}

theorem nil : Paired link [] result where
  begins split := (split_nil split).elim
  done _ _ := ⟨Nat.dvd_zero _, [], nofun, rfl, rfl⟩

theorem write {encrypted succeeded : Bool} {bytes : List UInt8} {timeout : Nat} :
    Paired link [.write encrypted bytes timeout succeeded] result where
  begins split := by cases (split_one split).2.1
  done _ _ := ⟨Nat.dvd_zero _, [], nofun, rfl, rfl⟩

theorem append {value : β} (first : Paired link calls (.ok value : Except (Halt Error) β))
    (rest : Paired (replay link calls) more result) : Paired link (calls ++ more) result where
  begins := by
    intro before count timeout succeeded after split even
    rcases split_append split with ⟨middle, front, -⟩ | ⟨middle, rfl, back⟩
    · exact first.begins front even
    · obtain ⟨pairs, whole⟩ := first.done value rfl
      rw [readCount_append, Nat.dvd_add_right pairs] at even
      exact whole.append (rest.begins back even)
  done other finished := by
    obtain ⟨pairs, whole⟩ := first.done value rfl
    obtain ⟨pairs', whole'⟩ := rest.done other finished
    exact ⟨readCount_append _ _ ▸ Nat.dvd_add pairs pairs', whole.append whole'⟩

/-- Something that failed may be followed by what does not read. -/
theorem close (closed : Bool) {halt halt' : Halt Error}
    (paired : Paired link calls (.error halt : Except (Halt Error) β)) :
    Paired link (calls ++ [.close closed]) (.error halt' : Except (Halt Error) α) where
  begins := by
    intro before count timeout succeeded after split even
    obtain ⟨middle, front, -⟩ := split_ahead split (by simp)
    exact paired.begins front even
  done := nofun

theorem guarded {link : τ} {calls : List Call} {result : Except (Halt Error) α}
    (guarded : Guarded (Paired link) calls result) : Paired link calls result := by
  cases guarded with
  | going paired => exact paired
  | closed paired closed => exact paired.close closed

end Paired

theorem Receives.paired {before : Outlook τ} {timeout : Nat} {calls : List Call}
    {result : Except (Halt Error) Frame} (receives : Receives before timeout calls result) :
    Paired before.link calls result := by
  have start : Whole before.link [] := ⟨[], nofun, rfl, rfl⟩
  have header : ¬ 2 ∣ readCount [.read headerSize timeout true] := (by decide : ¬ 2 ∣ 1)
  constructor
  · intro earlier count timeout' succeeded after split even
    cases receives with
    | unheard | refused =>
      obtain ⟨rfl, -, -⟩ := split_one split
      exact start
    | cut | whole =>
      rcases split_two split with ⟨rfl, -, -⟩ | ⟨rfl, -, -⟩
      · exact start
      · exact absurd even header
  · intro frame received
    cases receives with
    | whole _ fits _ same =>
      obtain rfl := Except.ok.inj received
      refine ⟨⟨1, rfl⟩, [_], List.forall_mem_singleton.mpr fits, ?_, ?_⟩
      · rw [same, List.flatMap_singleton]
      · rw [same, Frame.bytes_length]
        simp only [taken, takenBy, headerSize]
        omega
    | unheard | refused | cut => cases received

section

variable {before : Outlook τ} {report report' : Report} {calls : List Call}

/-- A stage that waits reads messages in pairs, as long as what it does about them reads none. -/
theorem Attends.paired {acts : Acting τ α} (acted : ∀ {before report frame calls report' result},
      acts before report frame calls report' result → Paired before.link calls result)
    {result : Except (Halt Error) α} (attends : Attends acts before report calls report' result) :
    Paired before.link calls result := by
  have turned : ∀ {before : Outlook τ} {report report' calls result},
      Turns acts before report calls report' result → Paired before.link calls result := by
    intro before report report' calls result turns
    cases turns with
    | unheard receives => exact ⟨receives.paired.begins, nofun⟩
    | general receives => exact ⟨receives.paired.begins, fun _ _ => receives.paired.done _ rfl⟩
    | acted receives _ acts => exact receives.paired.append (acted acts)
  induction attends with
  | last turns => exact ⟨(turned turns).begins, fun _ _ => (turned turns).done _ rfl⟩
  | halted turns => exact ⟨(turned turns).begins, nofun⟩
  | onward turns _ ih => exact (turned turns).append ih

theorem Answers.paired {frame : Frame} {result : Except (Halt Error) (Option Unit)}
    (answers : Answers before frame calls result) : Paired before.link calls result := by
  cases answers with
  | unasked | refused => exact .nil
  | answered | unsent => exact .write

theorem Then.paired {first second : Doing τ} {result : Except (Halt Error) Unit}
    (paired : ∀ {before report calls report' result},
      first before report calls report' result → Paired before.link calls result)
    (others : ∀ {before report calls report' result},
      second before report calls report' result → Paired before.link calls result)
    (stages : Then first second before report calls report' result) :
    Paired before.link calls result := by
  cases stages with
  | halted ended => exact ⟨(paired ended).begins, nofun⟩
  | onward done rest => exact (paired done).append (others rest)

variable {result : Except (Halt Error) Unit}

theorem Introducing.paired (does : Introducing before report calls report' result) :
    Paired before.link calls result := by
  refine Paired.guarded (does.2.mono fun calls result wrote => ?_)
  cases wrote with
  | sent | failed => exact .write
  | long => exact .nil

theorem Authenticating.paired (does : Authenticating before report calls report' result) :
    Paired before.link calls result :=
  Paired.guarded (Guarded.mono does fun _ _ attends => attends.paired (·.answers.paired))

theorem Readying.paired (does : Readying before report calls report' result) :
    Paired before.link calls result :=
  Paired.guarded (Guarded.mono does fun _ _ attends => attends.paired (·.answers.paired))

end

/-- The answer about encryption and whole messages were read. -/
def Boundary (before : Outlook τ) (calls : List Call) : Prop :=
  ∃ (answer : List UInt8) (whole : List Frame), answer.length = answerSize before.config ∧
    (∀ frame ∈ whole, frame.Fits) ∧
    heard before.link calls = answer ++ whole.flatMap Frame.bytes ∧
    taken calls = (heard before.link calls).length

namespace Secures

variable {before : Outlook τ} {calls : List Call}

/-- No message begins while encryption is negotiated. -/
theorem plain {result : Except (Halt Error) Unit} (secures : Secures before calls result)
    (timeout : Nat) (succeeded : Bool) : .read headerSize timeout succeeded ∉ calls := by
  cases secures with
  | skipped => exact List.not_mem_nil
  | broken wanted requests =>
    obtain ⟨sent, rfl | ⟨listened, rfl⟩⟩ := requests.asks <;> simp [Outlook.writes, headerSize]
  | refused | accepted | stuck => simp [Outlook.writes, headerSize]

private theorem answer (secures : Secures before calls (.ok ())) :
    readCount calls = answerSize before.config ∧ taken calls = answerSize before.config ∧
      (heard before.link calls).length = answerSize before.config := by
  have length := secures.opened.heard
  rw [heard_append, List.length_append] at length
  refine ⟨?_, ?_, length⟩ <;> unfold answerSize <;> cases secures with
  | skipped disabled =>
    rw [if_pos disabled]
    rfl
  | refused optional =>
    rw [if_neg (by rw [optional]; nofun)]
    rfl
  | accepted wanted =>
    rw [if_neg wanted]
    rfl

end Secures

/-- Wherever a handshake begins to receive a message, whole messages were read before. -/
theorem Shaking.boundaries {start : Outlook τ} {report report' : Report} {calls : List Call}
    {result : Except (Halt Error) Unit} (does : Shaking start report calls report' result)
    {before after : List Call} {timeout messages : Nat} {succeeded : Bool}
    (split : calls = before ++ .read headerSize timeout succeeded :: after)
    (count : readCount before = answerSize start.config + 2 * messages) : Boundary start before := by
  cases does with
  | halted secured => exact absurd (split_mem split) (secured.2.plain timeout succeeded)
  | @onward opening _ _ _ _ secured rest =>
    have secures := secured.2
    obtain ⟨middle, rfl, back⟩ := split_behind split (secures.plain timeout succeeded)
    obtain ⟨reads, bytes, length⟩ := secures.answer
    rw [readCount_append, reads] at count
    have paired := Then.paired Introducing.paired (Then.paired Authenticating.paired Readying.paired) rest
    obtain ⟨whole, fit, same, size⟩ := paired.begins back ⟨messages, Nat.add_left_cancel count⟩
    have behind : heard start.link (opening ++ middle) =
        heard start.link opening ++ heard (start.after opening).link middle := heard_append ..
    refine ⟨heard start.link opening, whole, length, fit, ?_, ?_⟩
    · rw [behind, same]
    · rw [taken_append, behind, List.length_append, bytes, size, length]

end PgSession.Proofs
