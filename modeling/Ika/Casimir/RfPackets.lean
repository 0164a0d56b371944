import Ika.Foundation.ByteStream

/-!
The framing of RF packets on the socket of the NFC simulator.

Timeouts are in microseconds and readings of the clock in nanoseconds, both from the beginning of a
call; the callers' timeouts fit in 32 bits, so that their milliseconds are an `int`.
-/

set_option autoImplicit false

namespace Ika.Casimir

open ByteStream List

inductive Failure where
  | error (messages : List String)
  | length_error

def Failure.within (message : String) : Failure → Failure
  | error messages => error (message :: messages)
  | length_error => length_error

inductive Wrote where
  | failed
  | bytes (count : Nat)

/-- The loop of `WriteAll`: the number that it returns, what was written, and the answers left. -/
def writeLoop (buf : List UInt8) : List Wrote → Nat → Int × List UInt8 × List Wrote
  | [], _ => (-1, [], [])
  | .failed :: rest, _ => (-1, [], rest)
  | .bytes count :: rest, total_written =>
    let written := (buf.drop total_written).take count
    if written = [] then (total_written, [], rest)
    else if total_written + written.length < buf.length then
      let (result, more, left) := writeLoop buf rest (total_written + written.length)
      (result, written ++ more, left)
    else ((total_written + written.length : Nat), written, rest)

def WriteAll (buf : List UInt8) (writes : List Wrote) : Int × List UInt8 × List Wrote :=
  if buf = [] then (0, [], writes) else writeLoop buf writes 0

/-- `CasimirController::Write`: how it ends, and what was written. -/
def Write (raw_bytes : List UInt8) (writes : List Wrote) : Except Failure Unit × List UInt8 :=
  let header_bytes_le := bytes 2 raw_bytes.length
  let (written, header, writes) := WriteAll header_bytes_le writes
  if written ≠ 2 then
    (.error (.error ["Failed to write packet header to casimir socket"]), header)
  else
    let (written, payload, _) := WriteAll raw_bytes writes
    if written ≠ raw_bytes.length then
      (.error (.error ["Failed to write packet payload to casimir socket"]), header ++ payload)
    else (.ok (), header ++ payload)

/-- A read to come: when, of how many bytes more than one, and what time it is then. -/
structure Read where
  ready : Nat
  more : Nat
  clock : Nat

structure Socket where
  bytes : List UInt8
  reads : List Read
  now : Nat

/-- `duration_cast<milliseconds>`, of a timeout that has not passed. -/
def milliseconds (timeout : Int) : Nat := timeout.toNat / 1000

/-- There is something to read before `poll` gives up. -/
def Read.polled (read : Read) (now : Nat) (timeout : Int) : Prop :=
  read.ready ≤ now + milliseconds timeout * 1000000
  deriving Decidable

def elapsed (since clock : Nat) : Int := ((clock - since) / 1000 : Nat)

/-- The loop of `ReadExact`. Every time it subtracts the time since its beginning. -/
def readLoop (size prev_time : Nat) (out stream : List UInt8) (now : Nat) (timeout : Int) :
    List Read → Except Failure (List UInt8 × Socket)
  | [] =>
    if milliseconds timeout = 0 then
      .error (.error ["Failed to read from casimir socket; timed out"])
    else .error (.error ["Unexpected poll result for reading"])
  | read :: reads =>
    if milliseconds timeout = 0 then
      .error (.error ["Failed to read from casimir socket; timed out"])
    else if ¬read.polled now timeout then
      .error (.error ["Unexpected poll result for reading"])
    else
      let data := stream.take (min (read.more + 1) (size - out.length))
      if data = [] then .error (.error ["Failed to read from casimir socket, errno=0"])
      else
        let out := out ++ data
        let stream := stream.drop data.length
        if size ≤ out.length then .ok (out, ⟨stream, reads, read.clock⟩)
        else readLoop size prev_time out stream read.clock
          (timeout - elapsed prev_time read.clock) reads

/-- The buffer is made first, of so many bytes. -/
def ReadExact (socket : Socket) (size : Nat) (timeout : Int) :
    Except Failure (List UInt8 × Socket) :=
  if 2 ^ 63 ≤ size then .error .length_error
  else readLoop size socket.now [] socket.bytes socket.now timeout socket.reads

/-- The conversion of what was read as a `uint16_t` to an `int16_t`. -/
def int16 (value : Nat) : Int := if value < 2 ^ 15 then value else value - 2 ^ 16

def size_t (value : Int) : Nat := (value % 2 ^ 64).toNat

def ReadRfPacket (socket : Socket) (timeout : Int) : Except Failure (List UInt8 × Socket) :=
  match ReadExact socket 2 timeout with
  | .error failure => .error (failure.within "Failed to read RF packet header")
  | .ok (res, after) =>
    let packet_size := int16 (value res)
    match ReadExact after (size_t packet_size) (timeout - elapsed socket.now after.now) with
    | .error failure => .error (failure.within "Failed to read RF packet payload")
    | .ok done => .ok done

variable {writes : List Wrote} {length : Nat}

theorem writeLoop_whole {buf : List UInt8} {total_written : Nat}
    (whole : (writeLoop buf writes total_written).1 = buf.length)
    (within : total_written < buf.length) :
    (writeLoop buf writes total_written).2.1 = buf.drop total_written := by
  induction writes generalizing total_written with
  | nil => simp [writeLoop] at whole
  | cons answer rest ih =>
    cases answer with
    | failed => simp [writeLoop] at whole
    | bytes count =>
      have split := List.prefix_iff_eq_append.mp ( take_prefix count (buf.drop total_written))
      simp only [writeLoop] at whole ⊢
      split_ifs at whole ⊢ with nothing part
      · simp only at whole
        omega
      · simp only at whole ⊢
        rw [ih whole part, ← drop_drop]
        exact split
      · simp only at whole ⊢
        rw [drop_drop, drop_of_length_le (Nat.le_of_not_lt part), append_nil] at split
        exact split

theorem WriteAll_whole {buf : List UInt8} {writes : List Wrote}
    (whole : (WriteAll buf writes).1 = buf.length) : (WriteAll buf writes).2.1 = buf := by
  unfold WriteAll at whole ⊢
  split_ifs at whole ⊢ with nothing
  · exact nothing.symm
  · exact writeLoop_whole whole (length_pos_iff.mpr nothing)

theorem Write_ok {raw_bytes : List UInt8} (succeeds : (Write raw_bytes writes).1 = .ok ()) :
    (Write raw_bytes writes).2 = bytes 2 raw_bytes.length ++ raw_bytes := by
  simp only [Write] at succeeds ⊢
  split_ifs at succeeds ⊢ with header payload
  have first := @WriteAll_whole (bytes 2 raw_bytes.length) writes
    (by simpa using not_not.mp header)
  have second := WriteAll_whole (not_not.mp payload)
  simp only [first, second]

/-- Each poll for the bytes left has a millisecond, and some of them come within it. -/
def Timely (since : Nat) : Nat → Nat → Int → List Read → Prop
  | _, _, _, [] => False
  | left, now, timeout, read :: reads =>
    milliseconds timeout ≠ 0 ∧ read.polled now timeout ∧
      (left ≤ read.more + 1 ∨ Timely since (left - (read.more + 1)) read.clock
        (timeout - elapsed since read.clock) reads)

instance Timely.decidable (since : Nat) : (left now : Nat) → (timeout : Int) →
    (reads : List Read) → Decidable (Timely since left now timeout reads)
  | _, _, _, [] => isFalse id
  | left, _, timeout, read :: reads =>
    have := Timely.decidable since (left - (read.more + 1)) read.clock
      (timeout - elapsed since read.clock) reads
    inferInstanceAs (Decidable (_ ∧ _ ∧ (_ ∨ _)))

/-- The socket once so many bytes were read: what is left in it, the reads left, and the time. -/
def served (bytes : List UInt8) : Nat → Nat → List Read → Socket
  | _, now, [] => ⟨bytes, [], now⟩
  | left, _, read :: reads =>
    if left ≤ read.more + 1 then ⟨bytes, reads, read.clock⟩
    else served bytes (left - (read.more + 1)) read.clock reads

section Loop

variable {size since left now : Nat} {out stream : List UInt8} {timeout : Int} {reads : List Read}

theorem take_next (read : Read) (part : ¬left ≤ read.more + 1) :
    stream.take (read.more + 1) ++ (stream.drop (read.more + 1)).take (left - (read.more + 1)) =
      stream.take left := by
  rw [← take_add, Nat.add_sub_cancel' (Nat.le_of_not_le part)]

theorem take_some {count : Nat} (some_ : 0 < count) (there : count ≤ stream.length) :
    (stream.take count).length = count ∧ stream.take count ≠ [] := by
  have got := length_take_of_le there
  refine ⟨got, ?_⟩
  rw [← length_pos_iff, got]
  exact some_

theorem readLoop_timely (missing : left + out.length = size) (some_ : 0 < left)
    (there : left ≤ stream.length) (timely : Timely since left now timeout reads) :
    readLoop size since out stream now timeout reads =
      .ok (out ++ stream.take left, served (stream.drop left) left now reads) := by
  induction reads generalizing left now out stream timeout with
  | nil => cases timely
  | cons read reads ih =>
    obtain ⟨more, polled, rest⟩ := timely
    have asked : size - out.length = left := by omega
    simp only [readLoop, if_neg more, polled, not_true, if_false, asked]
    by_cases all : left ≤ read.more + 1
    · have count : min (read.more + 1) left = left := Nat.min_eq_right all
      obtain ⟨got, something⟩ := take_some some_ there
      rw [count, if_neg something, if_pos (by rw [length_append, got]; omega), got, served,
        if_pos all]
    · have count : min (read.more + 1) left = read.more + 1 := by omega
      obtain ⟨got, something⟩ := @take_some stream _ (Nat.succ_pos read.more) (by omega)
      rw [count, if_neg something, if_neg (by rw [length_append, got]; omega), got,
        ih (by rw [length_append, got]; omega) (by omega) (by rw [length_drop]; omega)
          (rest.resolve_left all),
        append_assoc, take_next read all, drop_drop, served, if_neg all,
        Nat.add_sub_cancel' (Nat.le_of_not_le all)]

theorem readLoop_late (missing : left + out.length = size) (some_ : 0 < left)
    (there : left ≤ stream.length) (late : ¬Timely since left now timeout reads) :
    ∃ failure, readLoop size since out stream now timeout reads = .error failure := by
  induction reads generalizing left now out stream timeout with
  | nil =>
    rw [readLoop]
    split
    · exact ⟨_, rfl⟩
    · exact ⟨_, rfl⟩
  | cons read reads ih =>
    have asked : size - out.length = left := by omega
    by_cases more : milliseconds timeout = 0
    · exact ⟨_, by rw [readLoop, if_pos more]⟩
    by_cases polled : read.polled now timeout
    · have rest := fun rest => late ⟨more, polled, rest⟩
      obtain ⟨part, rest⟩ := not_or.mp rest
      have count : min (read.more + 1) left = read.more + 1 := by omega
      obtain ⟨got, something⟩ := @take_some stream _ (Nat.succ_pos read.more) (by omega)
      simp only [readLoop, if_neg more, polled, not_true, if_false, asked, count, something, got]
      rw [if_neg (by rw [length_append, got]; omega)]
      exact ih (by rw [length_append, got]; omega) (by omega)
        (by rw [length_drop]; omega) rest
    · exact ⟨_, by rw [readLoop, if_neg more, if_pos polled]⟩

end Loop

/-- A packet, what comes of its writes, and the call that reads it. -/
structure Exchange where
  raw_bytes : List UInt8
  writes : List Wrote
  timeout : UInt32
  reads : List Read

namespace Exchange

variable (exchange : Exchange)

def sent : List UInt8 := (Write exchange.raw_bytes exchange.writes).2

def read (stream : List UInt8) : Except Failure (List UInt8 × Socket) :=
  ReadRfPacket ⟨stream, exchange.reads, 0⟩ exchange.timeout.toNat

/-- The clock does not go back, and says at least when a read became possible. -/
def Ordered : Nat → List Read → Prop
  | _, [] => True
  | now, read :: reads => now ≤ read.clock ∧ read.ready ≤ read.clock ∧ Ordered read.clock reads

instance Ordered.decidable : (now : Nat) → (reads : List Read) → Decidable (Ordered now reads)
  | _, [] => isTrue trivial
  | _, read :: reads =>
    have := Ordered.decidable read.clock reads
    inferInstanceAs (Decidable (_ ∧ _ ∧ _))

/-- A packet that is too long for the header is not written. -/
def Refused : Prop :=
  2 ^ 16 ≤ exchange.raw_bytes.length → (Write exchange.raw_bytes exchange.writes).1 ≠ .ok ()

/-- There are reads for all bytes, each in time. -/
structure Arrives : Prop where
  enough : exchange.raw_bytes.length + 2 ≤ exchange.reads.length
  ordered : Ordered 0 exchange.reads
  before : ∀ read ∈ exchange.reads, read.ready < exchange.timeout.toNat * 1000

def between (stream : List UInt8) : Socket := served stream 2 0 exchange.reads

/-- The length is positive as an `int16_t`, and no poll gives up before the next bytes come. -/
structure Fits : Prop where
  some_ : 0 < exchange.raw_bytes.length
  short : exchange.raw_bytes.length < 2 ^ 15
  header : Timely 0 2 0 exchange.timeout.toNat exchange.reads
  payload : Timely (exchange.between []).now exchange.raw_bytes.length (exchange.between []).now
    (exchange.timeout.toNat - elapsed 0 (exchange.between []).now) (exchange.between []).reads

end Exchange

def sentAll (exchanges : List Exchange) : List UInt8 := exchanges.flatMap Exchange.sent

def ReadBack : List UInt8 → List Exchange → Prop
  | _, [] => True
  | stream, exchange :: rest => exchange.Arrives →
    ∃ after, exchange.read stream = .ok (exchange.raw_bytes, after) ∧ ReadBack after.bytes rest

def AllFit : List Exchange → Prop
  | [] => True
  | exchange :: rest => exchange.Arrives → exchange.Fits ∧ AllFit rest

theorem size_t_short (short : length < 2 ^ 15) : size_t (int16 length) = length := by
  rw [int16, if_pos short, size_t]
  omega

theorem size_t_long (long : ¬length < 2 ^ 15) (header : length < 2 ^ 16) :
    2 ^ 63 ≤ size_t (int16 length) := by
  rw [int16, if_neg long, size_t]
  omega

theorem served_eq (bytes : List UInt8) (left now : Nat) (reads : List Read) :
    served bytes left now reads = {served [] left now reads with bytes := bytes} := by
  induction reads generalizing left now with
  | nil => rfl
  | cons read reads ih =>
    unfold served
    split
    · rfl
    · exact ih ..

theorem ReadExact_timely (socket : Socket) {size : Nat} {timeout : Int} (some_ : 0 < size)
    (short : size < 2 ^ 63) (there : size ≤ socket.bytes.length)
    (timely : Timely socket.now size socket.now timeout socket.reads) :
    ReadExact socket size timeout = .ok (socket.bytes.take size,
      served (socket.bytes.drop size) size socket.now socket.reads) := by
  rw [ReadExact, if_neg (Nat.not_le_of_lt short)]
  exact readLoop_timely rfl some_ there timely

theorem ReadExact_late (socket : Socket) {size : Nat} {timeout : Int} (some_ : 0 < size)
    (short : size < 2 ^ 63) (there : size ≤ socket.bytes.length)
    (late : ¬Timely socket.now size socket.now timeout socket.reads) :
    ∃ failure, ReadExact socket size timeout = .error failure := by
  rw [ReadExact, if_neg (Nat.not_le_of_lt short)]
  exact readLoop_late rfl some_ there late

theorem ReadExact_zero (socket : Socket) (timeout : Int) :
    ∃ failure, ReadExact socket 0 timeout = .error failure := by
  rw [ReadExact, if_neg (by decide)]
  cases socket.reads with
  | nil =>
    rw [readLoop]
    split
    · exact ⟨_, rfl⟩
    · exact ⟨_, rfl⟩
  | cons read reads =>
    rw [readLoop]
    split
    · exact ⟨_, rfl⟩
    split
    · exact ⟨_, rfl⟩
    · simp

section Exchanges

variable {exchange : Exchange} {following : List UInt8}

theorem ReadRfPacket_header (timely : Timely 0 2 0 exchange.timeout.toNat exchange.reads)
    (payload : List UInt8) :
    ReadExact ⟨bytes 2 exchange.raw_bytes.length ++ payload, exchange.reads, 0⟩ 2
        exchange.timeout.toNat =
      .ok (bytes 2 exchange.raw_bytes.length,
        {exchange.between [] with bytes := payload}) := by
  have there : 2 ≤ (bytes 2 exchange.raw_bytes.length ++ payload).length := by
    rw [length_append, length_bytes]
    omega
  rw [ReadExact_timely ⟨_, exchange.reads, 0⟩ (by decide) (by decide) there timely]
  simp only [take_left' (length_bytes 2 _), drop_left' (length_bytes 2 _)]
  rw [served_eq]
  rfl

theorem Exchange.Fits.read (fits : exchange.Fits) :
    exchange.read (bytes 2 exchange.raw_bytes.length ++ (exchange.raw_bytes ++ following)) =
      .ok (exchange.raw_bytes, served following exchange.raw_bytes.length
        (exchange.between []).now (exchange.between []).reads) := by
  have length : value (bytes 2 exchange.raw_bytes.length) = exchange.raw_bytes.length := by
    have short := fits.short
    rw [value_bytes]
    omega
  simp only [Exchange.read, ReadRfPacket, ReadRfPacket_header fits.header, length,
    size_t_short fits.short]
  have payload := ReadExact_timely
    {exchange.between [] with bytes := exchange.raw_bytes ++ following} fits.some_
    (by have short := fits.short; omega) (by simp) fits.payload
  simp only [take_left, drop_left] at payload
  rw [payload]

theorem fits_of_read {after : Socket}
    (read : exchange.read (bytes 2 exchange.raw_bytes.length ++
      (exchange.raw_bytes ++ following)) = .ok (exchange.raw_bytes, after)) : exchange.Fits := by
  by_cases header : Timely 0 2 0 exchange.timeout.toNat exchange.reads
  · simp only [Exchange.read, ReadRfPacket, ReadRfPacket_header header, value_bytes] at read
    have bound : exchange.raw_bytes.length % 256 ^ 2 < 2 ^ 16 := Nat.mod_lt _ (by decide)
    have below := Nat.mod_le exchange.raw_bytes.length (256 ^ 2)
    revert read bound below
    generalize exchange.raw_bytes.length % 256 ^ 2 = length
    intro read bound below
    by_cases short : length < 2 ^ 15
    · rw [size_t_short short] at read
      have there : length ≤ (exchange.raw_bytes ++ following).length := by
        rw [length_append]
        omega
      rcases Nat.eq_zero_or_pos length with rfl | some_
      · obtain ⟨failure, failed⟩ := ReadExact_zero
          {exchange.between [] with bytes := exchange.raw_bytes ++ following}
          (exchange.timeout.toNat - elapsed 0 (exchange.between []).now)
        rw [failed] at read
        cases read
      by_cases payload : Timely (exchange.between []).now length (exchange.between []).now
          (exchange.timeout.toNat - elapsed 0 (exchange.between []).now) (exchange.between []).reads
      · rw [ReadExact_timely
          {exchange.between [] with bytes := exchange.raw_bytes ++ following} some_ (by omega)
          there payload] at read
        have all : (exchange.raw_bytes ++ following).take length = exchange.raw_bytes := by
          rw [Except.ok.injEq, Prod.mk.injEq] at read
          exact read.1
        have whole : exchange.raw_bytes.length = length := by
          have count := congrArg List.length all
          rw [length_take_of_le there] at count
          exact count.symm
        subst whole
        exact ⟨some_, short, header, payload⟩
      · obtain ⟨failure, failed⟩ := ReadExact_late
          {exchange.between [] with bytes := exchange.raw_bytes ++ following} some_ (by omega)
          there payload
        rw [failed] at read
        cases read
    · rw [ReadExact, if_pos (size_t_long short bound)] at read
      cases read
  · have there : 2 ≤ (bytes 2 exchange.raw_bytes.length ++
        (exchange.raw_bytes ++ following)).length := by
      rw [length_append, length_bytes]
      omega
    obtain ⟨failure, failed⟩ := ReadExact_late ⟨_, exchange.reads, 0⟩ (by decide) (by decide)
      there header
    simp only [Exchange.read, ReadRfPacket, failed] at read
    cases read

end Exchanges

theorem readBack_iff (exchanges : List Exchange) (following : List UInt8)
    (written : ∀ exchange ∈ exchanges,
      (Write exchange.raw_bytes exchange.writes).1 = .ok ()) :
    ReadBack (sentAll exchanges ++ following) exchanges ↔ AllFit exchanges := by
  induction exchanges with
  | nil => exact Iff.rfl
  | cons exchange rest ih =>
    rw [forall_mem_cons] at written
    have stream : sentAll (exchange :: rest) ++ following =
        bytes 2 exchange.raw_bytes.length ++
          (exchange.raw_bytes ++ (sentAll rest ++ following)) := by
      rw [sentAll, flatMap_cons, Exchange.sent, Write_ok written.1]
      simp only [append_assoc]
      rfl
    rw [ReadBack, AllFit, stream]
    refine imp_congr_right fun _ => ⟨fun ⟨after, read, more⟩ => ?_, fun ⟨fits, more⟩ => ?_⟩
    · have fits := fits_of_read read
      cases fits.read.symm.trans read
      rw [served_eq] at more
      exact ⟨fits, (ih written.2).mp more⟩
    · refine ⟨_, fits.read, ?_⟩
      rw [served_eq]
      exact (ih written.2).mpr more

/-- Packets that were written are read back, and none is too long, where each has a length for the
header and fits as long as they come in time. -/
theorem packets_read_back_iff (exchanges : List Exchange) (following : List UInt8)
    (written : ∀ exchange ∈ exchanges,
      (Write exchange.raw_bytes exchange.writes).1 = .ok ()) :
    (ReadBack (sentAll exchanges ++ following) exchanges ∧
        ∀ exchange ∈ exchanges, exchange.Refused) ↔
      AllFit exchanges ∧ ∀ exchange ∈ exchanges, exchange.raw_bytes.length < 2 ^ 16 := by
  refine and_congr (readBack_iff exchanges following written)
    (forall₂_congr fun exchange among => ⟨fun refused => ?_, fun short long => ?_⟩)
  · exact Nat.lt_of_not_le fun long => refused long (written exchange among)
  · exact absurd short (Nat.not_lt_of_le long)

def millisecond : Nat := 1000000

def threeBytes : Exchange where
  raw_bytes := [7, 8, 9]
  writes := [.bytes 2, .bytes 1, .bytes 5]
  timeout := 1000000
  reads := [⟨0, 1, 1 * millisecond⟩, ⟨300 * millisecond, 0, 300 * millisecond⟩,
    ⟨600 * millisecond, 1, 600 * millisecond⟩, ⟨0, 0, 600 * millisecond⟩,
    ⟨0, 0, 600 * millisecond⟩]

theorem packets_read_back_iff_threeBytes :
    threeBytes.Arrives ∧ ReadBack (sentAll [threeBytes] ++ []) [threeBytes] ∧
      ∀ exchange ∈ [threeBytes], exchange.Refused :=
  ⟨⟨by decide, by decide, by decide⟩,
    (packets_read_back_iff [threeBytes] [] fun exchange among => by
      rw [mem_singleton.mp among]
      rfl).mpr ⟨fun _ => ⟨⟨by decide, by decide, by decide, by decide⟩, trivial⟩, by decide⟩⟩

def noBytes : Exchange where
  raw_bytes := []
  writes := [.bytes 2]
  timeout := 1000000
  reads := [⟨0, 1, 1 * millisecond⟩, ⟨1 * millisecond, 0, 1 * millisecond⟩]

/-- The third byte comes 850 milliseconds after the call, of the 1000 that it may take. -/
def slowBytes : Exchange where
  raw_bytes := [7, 8, 9]
  writes := [.bytes 2, .bytes 3]
  timeout := 1000000
  reads := [⟨0, 1, 1 * millisecond⟩, ⟨300 * millisecond, 0, 300 * millisecond⟩,
    ⟨600 * millisecond, 0, 600 * millisecond⟩, ⟨850 * millisecond, 0, 850 * millisecond⟩,
    ⟨850 * millisecond, 0, 850 * millisecond⟩]

theorem WriteAll_at_once {buf : List UInt8} {count : Nat} (some_ : 0 < buf.length)
    (fits : buf.length ≤ count) (rest : List Wrote) :
    WriteAll buf (.bytes count :: rest) = ((buf.length : Int), buf, rest) := by
  have filled : buf ≠ [] := length_pos_iff.mp some_
  simp [WriteAll, writeLoop, filled, take_of_length_le fits]

theorem Write_at_once {raw_bytes : List UInt8} {count : Nat} (some_ : 0 < raw_bytes.length)
    (fits : raw_bytes.length ≤ count) : (Write raw_bytes [.bytes 2, .bytes count]).1 = .ok () := by
  have header : (bytes 2 raw_bytes.length).length = 2 := length_bytes 2 _
  rw [Write, WriteAll_at_once (header ▸ Nat.two_pos) header.le]
  simp [header, WriteAll_at_once some_ fits]

def longBytes : Exchange where
  raw_bytes := replicate (2 ^ 16) 7
  writes := [.bytes 2, .bytes (2 ^ 16)]
  timeout := 0
  reads := []

/-- An empty packet is written and cannot be read, a slow one is given up on, a long one is not
refused. -/
theorem packets_not_read :
    (∀ exchange ∈ [noBytes, slowBytes],
      (Write exchange.raw_bytes exchange.writes).1 = .ok () ∧ exchange.Arrives) ∧
      ¬ReadBack (sentAll [noBytes]) [noBytes] ∧ ¬ReadBack (sentAll [slowBytes]) [slowBytes] ∧
        ¬longBytes.Refused := by
  have empty : noBytes.Arrives := ⟨by decide, by decide, by decide⟩
  have slow : slowBytes.Arrives := ⟨by decide, by decide, by decide⟩
  refine ⟨?_, fun back => ?_, fun back => ?_, fun refused => ?_⟩
  · simp only [forall_mem_cons]
    exact ⟨⟨rfl, empty⟩, ⟨rfl, slow⟩, by simp⟩
  · obtain ⟨after, read, -⟩ := back empty
    have fits := @fits_of_read noBytes [] after read
    exact absurd fits.some_ (by decide)
  · obtain ⟨after, read, -⟩ := back slow
    have fits := @fits_of_read slowBytes [] after read
    exact absurd fits.payload (by decide)
  · have long : longBytes.raw_bytes.length = 2 ^ 16 := length_replicate
    exact refused long.ge (Write_at_once (by rw [long]; decide) long.le)

end Ika.Casimir
