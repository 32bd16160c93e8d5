import Awe.Product.Amounts
import Awe.Rust.Slice
import Awe.Rust.Text
import Awe.Rust.Utf8

/-! How requests come to the local product and its answers go back, in whatever pieces they arrive. -/

namespace Awe

open Rust Rust.Text Rust.Json

/-- Bytes that arrive together, of which there is at least one. -/
structure Segment where
  bytes : Bytes
  filled : bytes ≠ []

/-- What becomes of a stream when all its bytes were read. -/
inductive Ending where
  | closed
  | failed (message : String)
  | silent

/-- What is still to be read from a stream. -/
structure Arriving where
  segments : List Segment
  ending : Ending

/-- All the bytes that are still to be read. -/
def Arriving.bytes (self : Arriving) : Bytes := self.segments.flatMap Segment.bytes

/-- How a read ends that waits for bytes which do not come. -/
def Ending.read : Ending → Except Stop Unit
  | .closed => .ok ()
  | .failed message => .error (.error message)
  | .silent => .error .unfinished

/-- Read what has arrived, at most as many bytes as there is room for; none at the end. -/
def Arriving.read (self : Arriving) (room : Nat) : Except Stop (Bytes × Arriving) :=
  match self.segments with
  | [] => self.ending.read.map fun _ => ([], self)
  | segment :: later =>
    if left : segment.bytes.drop room = [] then .ok (segment.bytes, { self with segments := later })
    else .ok (segment.bytes.take room, { self with segments := ⟨_, left⟩ :: later })

/-- The most bytes that are read before the headers end. -/
def headerLimit : Nat := 64 * 1024

/-- The most bytes of the body of a request. -/
def bodyLimit : Nat := 64 * 1024 * 1024

/-- How many bytes are read at a time while headers are read. -/
def chunkSize : Nat := 4096

/-- The empty line behind headers. -/
def blankLine : Bytes := [13, 10, 13, 10]

/-- What was read stands in front of what is still to be read. -/
theorem Arriving.bytes_of_read {incoming rest : Arriving} {room : Nat} {chunk : Bytes}
    (read : incoming.read room = .ok (chunk, rest)) :
    incoming.bytes = chunk ++ rest.bytes ∧ rest.ending = incoming.ending := by
  obtain ⟨segments, ending⟩ := incoming
  unfold Arriving.read at read
  cases segments with
  | nil =>
    cases ending <;> cases read
    exact ⟨rfl, rfl⟩
  | cons segment later =>
    dsimp only at read
    split at read <;> cases read
    · exact ⟨rfl, rfl⟩
    · refine ⟨?_, rfl⟩
      simp only [Arriving.bytes, List.flatMap_cons]
      rw [← List.append_assoc, List.take_append_drop]

/-- Read until the headers have ended: all that was read, and where they end in it. -/
def readHeaders (data : Bytes) (incoming : Arriving) : Except Stop (Bytes × Nat × Arriving) :=
  match _arrived : incoming.read chunkSize with
  | .error stop => .error stop
  | .ok ([], _) => .error (.error "client closed connection before HTTP headers")
  | .ok (byte :: chunk, rest) =>
    let data := data ++ byte :: chunk
    if data.length > headerLimit then .error (.error "HTTP headers too large")
    else match firstAt blankLine data with
      | some position => .ok (data, position + 4, rest)
      | none => readHeaders data rest
termination_by incoming.bytes.length
decreasing_by
  rw [(Arriving.bytes_of_read _arrived).1]
  simp

/-- Read until as many bytes are there as a request has. -/
def readBody (target : Nat) (data : Bytes) (incoming : Arriving) : Except Stop Bytes :=
  if data.length < target then
    match _arrived : incoming.read (target - data.length) with
    | .error stop => .error stop
    | .ok ([], _) => .error (.error "client closed connection before request body was complete")
    | .ok (byte :: chunk, rest) => readBody target (data ++ byte :: chunk) rest
  else .ok (data.take target)
termination_by incoming.bytes.length
decreasing_by
  rw [(Arriving.bytes_of_read _arrived).1]
  simp

/-- The replacement for bytes that are no character. -/
def replacementCharacter : Char := Char.ofNat 0xfffd

/-- Whether a byte continues a character. -/
def isContinuation (byte : UInt8) : Bool := 0x80 ≤ byte && byte ≤ 0xbf

/-- What the bytes behind the first one of a character are to be. -/
def furtherBytes (first : UInt8) : Option (List (UInt8 → Bool)) :=
  if first < 0x80 then some []
  else if 0xc2 ≤ first ∧ first ≤ 0xdf then some [isContinuation]
  else if first = 0xe0 then some [fun byte => 0xa0 ≤ byte && byte ≤ 0xbf, isContinuation]
  else if first = 0xed then some [fun byte => 0x80 ≤ byte && byte ≤ 0x9f, isContinuation]
  else if 0xe1 ≤ first ∧ first ≤ 0xef then some [isContinuation, isContinuation]
  else if first = 0xf0 then
    some [fun byte => 0x90 ≤ byte && byte ≤ 0xbf, isContinuation, isContinuation]
  else if 0xf1 ≤ first ∧ first ≤ 0xf3 then some [isContinuation, isContinuation, isContinuation]
  else if first = 0xf4 then
    some [fun byte => 0x80 ≤ byte && byte ≤ 0x8f, isContinuation, isContinuation]
  else none

/-- How many bytes are as they are to be. -/
def fitting : List (UInt8 → Bool) → Bytes → Nat
  | check :: checks, byte :: bytes => if check byte then fitting checks bytes + 1 else 0
  | _, _ => 0

/-- The characters that bytes spell, with a replacement for each part that is no character. -/
def replaceInvalid : Nat → Bytes → List Char
  | 0, _ | _, [] => []
  | fuel + 1, first :: rest =>
    match furtherBytes first with
    | none => replacementCharacter :: replaceInvalid fuel rest
    | some checks =>
      let count := fitting checks rest
      let character := if count = checks.length then ofUtf8 (first :: rest.take count) else none
      (character.map String.toList).getD [replacementCharacter] ++
        replaceInvalid fuel (rest.drop count)

/-- `String::from_utf8_lossy`. -/
def fromUtf8Lossy (bytes : Bytes) : String :=
  match ofUtf8 bytes with
  | some text => text
  | none => .ofList (replaceInvalid bytes.length bytes)

/-- A line without the mark that stands before its end. -/
def stripReturn (line : List Char) : List Char :=
  if line.getLast? = some '\r' then line.dropLast else line

/-- `str::lines`. -/
def textLines (text : List Char) : List (List Char) :=
  let pieces := text.splitOn '\n'
  -- Nothing behind the last ending is no line, and only before an ending the mark is dropped.
  pieces.dropLast.map stripReturn ++ pieces.getLast?.toList.filter (· ≠ [])

/-- `str::parse` for `usize`. -/
def parseUsize (text : List Char) : Option Nat :=
  let digits := if text.head? = some '+' then text.tail else text
  if digits ≠ [] ∧ digits.all Char.isDigit ∧ decimalValue digits ≤ u64Max then
    some (decimalValue digits)
  else none

/-- The length of the body that one line of the headers states. -/
def statedLength (line : List Char) : Option Nat :=
  match firstAt [':'] line with
  | none => none
  | some place =>
    if (line.take place).map Char.toLower = "content-length".toList then
      parseUsize (trim (line.drop (place + 1)))
    else none

/-- The length of the body that headers state first; none is zero. -/
def contentLength (headers : Bytes) : Nat :=
  ((textLines (fromUtf8Lossy headers).toList).findSome? statedLength).getD 0

/-- Read one request. -/
def readHttpRequest (incoming : Arriving) : Except Stop String := do
  let (data, headerEnd, rest) ← readHeaders [] incoming
  let length := contentLength (data.take headerEnd)
  if length > bodyLimit then .error (.error "HTTP request body too large")
  else
    let data ← readBody (headerEnd + length) data rest
    okOr "HTTP request must be UTF-8" (ofUtf8 data)

/-- What comes of a read for which there are not enough bytes. -/
def Ending.short {Value : Type} (message : String) : Ending → Except Stop Value
  | .closed => .error (.error message)
  | .failed reason => .error (.error reason)
  | .silent => .error .unfinished

/-- The request that bytes begin with, read when they all have arrived. -/
def requestIn (bytes : Bytes) (ending : Ending) : Except Stop String :=
  match firstAt blankLine bytes with
  | none =>
    if bytes.length > headerLimit then .error (.error "HTTP headers too large")
    else ending.short "client closed connection before HTTP headers"
  | some position =>
    if position + 4 > headerLimit then .error (.error "HTTP headers too large")
    else
      let length := contentLength (bytes.take (position + 4))
      if length > bodyLimit then .error (.error "HTTP request body too large")
      else if bytes.length < position + 4 + length then
        ending.short "client closed connection before request body was complete"
      else okOr "HTTP request must be UTF-8" (ofUtf8 (bytes.take (position + 4 + length)))

/-- What the product sees of a request. -/
structure RequestView where
  method : List Char
  path : List Char
  body : List Char

/-- The empty line behind headers, as it stands in a text. -/
def blankText : List Char := "\r\n\r\n".toList

/-- `str::split_whitespace`. -/
def splitWhitespace (text : List Char) : List (List Char) :=
  (text.splitOnP isWhitespace).filter (· ≠ [])

/-- The method of a request, its path without a query, and its body. -/
def viewRequest (request : String) : RequestView :=
  let requestLine := (textLines request.toList).headD []
  let parts := splitWhitespace requestLine
  { method := parts[0]?.getD "GET".toList
    path := (parts[1]?.getD "/".toList).takeWhile (· ≠ '?')
    body := (secondPiece blankText request.toList).getD [] }

/-- A body up to its first empty line. -/
def untilBlank (body : List Char) : List Char :=
  match firstAt blankText body with
  | none => body
  | some place => body.take place

/-- The end of a line. -/
def crlf : String := "\r\n"

/-- The lines of a head, and the empty line behind it. -/
def httpHead : List String → String
  | [] => crlf
  | line :: rest => line ++ crlf ++ httpHead rest

/-- The lines of the head of an answer. -/
def responseLines (status contentType body : String) : List String :=
  ["HTTP/1.1 " ++ status, "Content-Type: " ++ contentType,
    "Content-Length: " ++ toString body.utf8ByteSize, "Access-Control-Allow-Origin: *",
    "Access-Control-Allow-Methods: GET, POST, OPTIONS",
    "Access-Control-Allow-Headers: content-type", "Cache-Control: no-store", "Connection: close"]

/-- An answer as it is sent. -/
def httpResponse (status contentType body : String) : String :=
  httpHead (responseLines status contentType body) ++ body

/-- A request of the desktop. -/
structure DesktopRequest where
  method : String
  path : String
  body : Option String

/-- The lines of the head of a request. -/
def DesktopRequest.lines (self : DesktopRequest) : List String :=
  [self.method ++ " " ++ self.path ++ " HTTP/1.1", "Host: awenet", "Content-Type: application/json",
    "Content-Length: " ++ toString (self.body.getD "").utf8ByteSize, "Connection: close"]

/-- A request as it is sent. -/
def DesktopRequest.text (self : DesktopRequest) : String :=
  httpHead self.lines ++ self.body.getD ""

/-- What the desktop takes from the bytes of an answer. -/
def answerBody (response : Bytes) : List Char :=
  (secondPiece blankText (fromUtf8Lossy response).toList).getD []

section Reading

variable {incoming rest : Arriving} {room position target : Nat} {chunk data bytes : Bytes}
  {stop : Stop} {ending : Ending} {message : String}

/-- A read takes no more than there is room for. -/
theorem Arriving.length_of_read (read : incoming.read room = .ok (chunk, rest)) :
    chunk.length ≤ room := by
  obtain ⟨segments, ending⟩ := incoming
  unfold Arriving.read at read
  cases segments with
  | nil =>
    cases ending <;> cases read
    exact Nat.zero_le _
  | cons segment later =>
    dsimp only at read
    split at read <;> cases read
    · rename_i left
      exact List.drop_eq_nil_iff.mp left
    · exact List.length_take_le _ _

/-- A read fails only at the end of a stream, and as the end does. -/
theorem Arriving.short_of_read {Value : Type} (read : incoming.read room = .error stop) :
    incoming.bytes = [] ∧ (incoming.ending.short message : Except Stop Value) = .error stop := by
  obtain ⟨segments, ending⟩ := incoming
  unfold Arriving.read at read
  cases segments with
  | nil =>
    cases ending <;> cases read
    · exact ⟨rfl, rfl⟩
    · exact ⟨rfl, rfl⟩
  | cons segment later =>
    dsimp only at read
    split at read <;> cases read

/-- A read with room finds nothing only at the end of a stream that was closed. -/
theorem Arriving.closed_of_read (roomy : 0 < room) (read : incoming.read room = .ok ([], rest)) :
    incoming.bytes = [] ∧ incoming.ending = .closed := by
  obtain ⟨segments, ending⟩ := incoming
  unfold Arriving.read at read
  cases segments with
  | nil =>
    cases ending <;> cases read
    exact ⟨rfl, rfl⟩
  | cons segment later =>
    dsimp only at read
    obtain ⟨byte, more, spelled⟩ := List.exists_cons_of_ne_nil segment.filled
    obtain ⟨places, rfl⟩ := Nat.exists_eq_succ_of_ne_zero roomy.ne'
    split at read
    · obtain ⟨empty, _⟩ := Prod.mk.inj (Except.ok.inj read)
      exact absurd empty segment.filled
    · obtain ⟨empty, _⟩ := Prod.mk.inj (Except.ok.inj read)
      rw [spelled, List.take_succ_cons] at empty
      cases empty

/-- Reading headers ends where they end, or where too much was read, or where the stream does. -/
theorem readHeaders_cases (incoming : Arriving) (unseen : firstAt blankLine data = none)
    (small : data.length ≤ headerLimit) :
    (∃ read position rest, readHeaders data incoming = .ok (read, position + 4, rest) ∧
      firstAt blankLine (data ++ incoming.bytes) = some position ∧
      read ++ rest.bytes = data ++ incoming.bytes ∧ rest.ending = incoming.ending ∧
      position + 4 ≤ read.length ∧ position + 4 ≤ headerLimit) ∨
    (readHeaders data incoming = .error (.error "HTTP headers too large") ∧
      headerLimit < (data ++ incoming.bytes).length ∧
      ∀ position, firstAt blankLine (data ++ incoming.bytes) = some position →
        headerLimit < position + 4 + (chunkSize - 1)) ∨
    (readHeaders data incoming =
        incoming.ending.short "client closed connection before HTTP headers" ∧
      firstAt blankLine (data ++ incoming.bytes) = none ∧
      (data ++ incoming.bytes).length ≤ headerLimit) := by
  have four : blankLine.length = 4 := rfl
  have filled : blankLine ≠ [] := by decide
  -- One case for each way a read can go; only the last one reads again.
  fun_induction readHeaders data incoming with
  -- The stream fails here, so nothing more belongs to the request.
  | case1 data incoming stop arrived =>
    obtain ⟨empty, short⟩ := Arriving.short_of_read arrived
    refine .inr (.inr ⟨short.symm, ?_, ?_⟩) <;> rw [empty, List.append_nil] <;> assumption
  -- The stream ends here.
  | case2 data incoming rest arrived =>
    obtain ⟨empty, closed⟩ := Arriving.closed_of_read (by decide) arrived
    refine .inr (.inr ⟨?_, ?_, ?_⟩)
    · rw [closed]
      rfl
    all_goals rw [empty, List.append_nil]; assumption
  -- This read passes the limit.
  | case3 data incoming byte chunk rest arrived read large =>
    have whole := (Arriving.bytes_of_read arrived).1
    have few := Arriving.length_of_read arrived
    refine .inr (.inl ⟨rfl, ?_, fun position found => ?_⟩)
    · rw [whole]
      simp only [read, List.length_append] at large ⊢
      omega
    · -- Before this read, the headers had not ended.
      by_contra early
      have behind : ¬ position + 4 ≤ data.length := by
        intro inside
        have seen : firstAt blankLine ((data ++ incoming.bytes).take data.length) = some position :=
          (firstAt_take filled).mpr ⟨found, inside⟩
        rw [List.take_left, unseen] at seen
        cases seen
      simp only [read, List.length_append] at large
      have most : chunkSize = 4096 := rfl
      omega
  -- This read has the end of the headers.
  | case4 data incoming byte chunk rest arrived read fits position found =>
    obtain ⟨whole, same⟩ := Arriving.bytes_of_read arrived
    have there : firstAt blankLine (data ++ incoming.bytes) = some position ∧
        position + 4 ≤ read.length := by
      -- The end is found in all bytes where it is found in those that were read.
      have seen : firstAt blankLine ((data ++ incoming.bytes).take read.length) = some position ↔
          firstAt blankLine (data ++ incoming.bytes) = some position ∧
            position + blankLine.length ≤ read.length := firstAt_take filled
      rw [whole, ← List.append_assoc, List.take_left] at seen
      rw [whole, ← List.append_assoc]
      exact seen.mp found
    refine .inl ⟨read, position, rest, rfl, there.1, ?_, same, there.2, ?_⟩
    · rw [whole, ← List.append_assoc]
    · omega
  -- The headers go on, and what was read is part of them.
  | case5 data incoming byte chunk rest arrived read fits unseen' ih =>
    obtain ⟨whole, same⟩ := Arriving.bytes_of_read arrived
    rw [whole, ← List.append_assoc, ← same]
    exact ih unseen' (by omega)

/-- Reading a body takes as many bytes as a request has, or ends where the stream does. -/
theorem readBody_eq : readBody target data incoming =
    if (data ++ incoming.bytes).length < target then
      incoming.ending.short "client closed connection before request body was complete"
    else .ok ((data ++ incoming.bytes).take target) := by
  fun_induction readBody target data incoming with
  | case1 data incoming few stop arrived =>
    obtain ⟨empty, short⟩ := Arriving.short_of_read arrived
    rw [empty, List.append_nil, if_pos few]
    exact short.symm
  | case2 data incoming few rest arrived =>
    obtain ⟨empty, closed⟩ := Arriving.closed_of_read (by omega) arrived
    rw [empty, List.append_nil, if_pos few, closed]
    rfl
  -- What is still to come is the same after the read, with what was read in front.
  | case3 data incoming few byte chunk rest arrived ih =>
    obtain ⟨whole, same⟩ := Arriving.bytes_of_read arrived
    rw [ih, whole, ← List.append_assoc, same]
  -- Bytes behind the body are left out.
  | case4 data incoming enough =>
    have fits : target ≤ data.length := by omega
    rw [if_neg (by rw [List.length_append]; omega), List.take_append_of_le_length fits]

/-- The headers end where a read of a whole chunk from before their end can pass the limit, and there
are bytes enough to pass it. -/
def Straddles (bytes : Bytes) : Prop :=
  ∃ position, firstAt blankLine bytes = some position ∧ position + 4 ≤ headerLimit ∧
    headerLimit < position + 4 + (chunkSize - 1) ∧ headerLimit < bytes.length

/-- A request whose headers were read is the one that the bytes begin with. -/
theorem readHttpRequest_of_headers
    (headers : readHeaders [] incoming = .ok (data, position + 4, rest))
    (found : firstAt blankLine incoming.bytes = some position)
    (whole : data ++ rest.bytes = incoming.bytes) (same : rest.ending = incoming.ending)
    (inside : position + 4 ≤ data.length) (early : position + 4 ≤ headerLimit) :
    readHttpRequest incoming = requestIn incoming.bytes incoming.ending := by
  -- The headers say the same length, whatever was read behind them.
  have front : data.take (position + 4) = incoming.bytes.take (position + 4) := by
    rw [← whole, List.take_append_of_le_length inside]
  have fits : ¬ position + 4 > headerLimit := by omega
  rw [readHttpRequest, headers, requestIn, found, ok_bind]
  dsimp only
  rw [front, if_neg fits]
  generalize contentLength (incoming.bytes.take (position + 4)) = length
  by_cases large : length > bodyLimit
  · rw [if_pos large, if_pos large]
  -- The body is the rest of what is there, up to its length.
  · rw [if_neg large, if_neg large, readBody_eq, whole, same]
    by_cases few : incoming.bytes.length < position + 4 + length
    · rw [if_pos few, if_pos few]
      cases incoming.ending <;> rfl
    · rw [if_neg few, if_neg few]
      rfl

/-- Headers that are too large make a request that is. -/
theorem readHttpRequest_of_too_large
    (headers : readHeaders [] incoming = .error (.error "HTTP headers too large")) :
    readHttpRequest incoming = .error (.error "HTTP headers too large") := by
  rw [readHttpRequest, headers]
  rfl

/-- A request is the one that the bytes begin with, unless too much was read with its headers. -/
theorem readHttpRequest_cases (incoming : Arriving) :
    readHttpRequest incoming = requestIn incoming.bytes incoming.ending ∨
      Straddles incoming.bytes ∧
        readHttpRequest incoming = .error (.error "HTTP headers too large") := by
  have empty : ([] : Bytes).length ≤ headerLimit := by decide
  rcases readHeaders_cases incoming rfl empty with
    ⟨data, position, rest, headers, found, whole, same, inside, early⟩ |
    ⟨headers, large, late⟩ | ⟨headers, none, small⟩
  · exact .inl (readHttpRequest_of_headers headers found whole same inside early)
  -- A read found them too large, maybe before it could find their end.
  · have refused := readHttpRequest_of_too_large headers
    rw [List.nil_append] at large late
    cases found : firstAt blankLine incoming.bytes with
    -- No end of them is to come, so they are too large anyway.
    | none =>
      left
      rw [refused, requestIn, found]
      dsimp only
      rw [if_pos large]
    | some position =>
      by_cases early : position + 4 ≤ headerLimit
      · exact .inr ⟨⟨position, found, early, late position found, large⟩, refused⟩
      · left
        rw [refused, requestIn, found]
        dsimp only
        rw [if_pos (by omega)]
  · left
    rw [List.nil_append] at none small
    rw [readHttpRequest, headers, requestIn, none]
    dsimp only
    rw [if_neg (by omega)]
    cases incoming.ending <;> rfl

/-- A read takes the first segment, or a part of it. -/
theorem Arriving.read_cons (segment : Segment) (later : List Segment) (ending : Ending) (room : Nat) :
    (segment.bytes.drop room = [] ∧
      (Arriving.mk (segment :: later) ending).read room = .ok (segment.bytes, ⟨later, ending⟩)) ∨
    ∃ left : segment.bytes.drop room ≠ [], (Arriving.mk (segment :: later) ending).read room =
      .ok (segment.bytes.take room, ⟨⟨_, left⟩ :: later, ending⟩) := by
  by_cases left : segment.bytes.drop room = []
  · exact .inl ⟨left, dif_pos left⟩
  · exact .inr ⟨left, dif_neg left⟩

/-- What a read of some bytes comes to while headers are read. -/
theorem readHeaders_of_read (read : incoming.read chunkSize = .ok (chunk, rest))
    (present : chunk ≠ []) : readHeaders data incoming =
      if (data ++ chunk).length > headerLimit then .error (.error "HTTP headers too large")
      else match firstAt blankLine (data ++ chunk) with
        | some position => .ok (data ++ chunk, position + 4, rest)
        | none => readHeaders (data ++ chunk) rest := by
  obtain ⟨byte, more, rfl⟩ := List.exists_cons_of_ne_nil present
  rw [readHeaders]
  split
  · rename_i stop arrived
    rw [read] at arrived
    cases arrived
  · rename_i arrived
    rw [read] at arrived
    cases arrived
  · rename_i arrived
    rw [read] at arrived
    cases arrived
    rfl

/-- Headers that have not ended, and are not too large, are read on. -/
theorem readHeaders_of_unseen (read : incoming.read chunkSize = .ok (chunk, rest))
    (present : chunk ≠ []) (unseen : firstAt blankLine (data ++ chunk) = none)
    (small : (data ++ chunk).length ≤ headerLimit) :
    readHeaders data incoming = readHeaders (data ++ chunk) rest := by
  rw [readHeaders_of_read read present, if_neg (by omega), unseen]

/-- Bytes that arrive together are read one chunk after the other while the headers go on. -/
theorem readHeaders_segment {segment : Segment} {later : List Segment}
    (unseen : firstAt blankLine (data ++ segment.bytes) = none)
    (small : (data ++ segment.bytes).length ≤ headerLimit) :
    readHeaders data ⟨segment :: later, ending⟩ =
      readHeaders (data ++ segment.bytes) ⟨later, ending⟩ := by
  have filled : blankLine ≠ [] := by decide
  -- Induction on the size of the segment, off which a read takes a chunk.
  induction size : segment.bytes.length using Nat.strong_induction_on generalizing data segment with
  | h count ih =>
    rcases Arriving.read_cons segment later ending chunkSize with ⟨_, read⟩ | ⟨left, read⟩
    -- The read takes all of the segment.
    · exact readHeaders_of_unseen read segment.filled unseen small
    -- It takes a chunk, and the rest of the segment is a shorter one.
    · have parts : data ++ segment.bytes.take chunkSize ++ segment.bytes.drop chunkSize =
          data ++ segment.bytes := by
        rw [List.append_assoc, List.take_append_drop]
      have longer := List.length_pos_of_ne_nil left
      have present : segment.bytes.take chunkSize ≠ [] := by
        intro none
        rw [List.take_eq_nil_iff] at none
        exact none.elim (by decide) segment.filled
      have front : data ++ segment.bytes.take chunkSize =
          (data ++ segment.bytes).take (data ++ segment.bytes.take chunkSize).length := by
        rw [← parts, List.take_left]
      -- An end of the headers in this chunk would be one in the segment.
      have early : firstAt blankLine (data ++ segment.bytes.take chunkSize) = none := by
        by_contra seen
        obtain ⟨position, seen⟩ := Option.ne_none_iff_exists'.mp seen
        rw [front] at seen
        rw [((firstAt_take filled).mp seen).1] at unseen
        cases unseen
      have shorter : (data ++ segment.bytes.take chunkSize).length ≤ headerLimit := by
        have whole := congrArg List.length parts
        rw [List.length_append] at whole
        omega
      have less : (segment.bytes.drop chunkSize).length < count := by
        rw [List.length_drop] at longer ⊢
        have most : chunkSize = 4096 := rfl
        omega
      have onward := @ih _ less (data ++ segment.bytes.take chunkSize) ⟨_, left⟩
        (by rw [parts]; exact unseen) (by rw [parts]; exact small) rfl
      rw [readHeaders_of_unseen read present early shorter, onward, parts]

/-- Some segments carry bytes past the limit with the headers. -/
theorem exists_segments_too_large (straddles : Straddles bytes) (ending : Ending) :
    ∃ incoming : Arriving, incoming.bytes = bytes ∧ incoming.ending = ending ∧
      readHttpRequest incoming = .error (.error "HTTP headers too large") := by
  obtain ⟨position, found, early, late, large⟩ := straddles
  have filled : blankLine ≠ [] := by decide
  have four : blankLine.length = 4 := rfl
  have most : headerLimit = 65536 := rfl
  have each : chunkSize = 4096 := rfl
  -- The next chunk after this many bytes is the one that passes the limit.
  have before : bytes.take 61441 ≠ [] := by
    rw [Ne, List.take_eq_nil_iff, ← List.length_eq_zero_iff]
    omega
  have behind : bytes.drop 61441 ≠ [] := by
    rw [Ne, List.drop_eq_nil_iff]
    omega
  have taken : (bytes.take 61441).length = 61441 := by
    rw [List.length_take]
    omega
  -- The headers do not end before, since they end late.
  have unseen : firstAt blankLine (bytes.take 61441) = none := by
    by_contra seen
    obtain ⟨place, seen⟩ := Option.ne_none_iff_exists'.mp seen
    obtain ⟨seen, inside⟩ := (firstAt_take filled).mp seen
    cases found.symm.trans seen
    omega
  refine ⟨⟨[⟨_, before⟩, ⟨_, behind⟩], ending⟩, ?_, rfl, readHttpRequest_of_too_large ?_⟩
  · simp only [Arriving.bytes, List.flatMap_cons, List.flatMap_nil, List.append_nil]
    exact List.take_append_drop _ _
  · rw [readHeaders_segment unseen (by rw [List.nil_append, taken]; omega), List.nil_append]
    -- With the next chunk, there are more bytes than the limit, whether it takes all of them or not.
    have left : (bytes.drop 61441).length = bytes.length - 61441 := List.length_drop
    rcases Arriving.read_cons ⟨_, behind⟩ [] ending chunkSize with ⟨_, read⟩ | ⟨_, read⟩
    · rw [readHeaders_of_read read behind, if_pos]
      rw [List.length_append, taken, left]
      omega
    · have present : (bytes.drop 61441).take chunkSize ≠ [] := by
        intro none
        rw [List.take_eq_nil_iff] at none
        exact none.elim (by decide) behind
      rw [readHeaders_of_read read present, if_pos]
      rw [List.length_append, taken, List.length_take, left]
      omega

/-- Some segments end with the headers, and no byte behind them is read too early. -/
theorem exists_segments_read (straddles : Straddles bytes) (ending : Ending) :
    ∃ incoming : Arriving, incoming.bytes = bytes ∧ incoming.ending = ending ∧
      readHttpRequest incoming = requestIn bytes ending := by
  obtain ⟨position, found, early, late, large⟩ := straddles
  have filled : blankLine ≠ [] := by decide
  have four : blankLine.length = 4 := rfl
  have most : headerLimit = 65536 := rfl
  have each : chunkSize = 4096 := rfl
  -- The last byte of the headers is a segment of its own.
  obtain ⟨before, byte, rest, whole, size⟩ : ∃ before byte rest,
      bytes = before ++ byte :: rest ∧ before.length = position + 3 := by
    obtain ⟨byte, rest, behind⟩ := List.exists_cons_of_length_pos
      (l := bytes.drop (position + 3)) (by rw [List.length_drop]; omega)
    refine ⟨bytes.take (position + 3), byte, rest, ?_, ?_⟩
    · rw [← behind, List.take_append_drop]
    · rw [List.length_take]
      omega
  have present : before ≠ [] := by
    rw [Ne, ← List.length_eq_zero_iff]
    omega
  have more : rest ≠ [] := by
    intro none
    rw [whole, none, List.length_append, size, List.length_singleton] at large
    omega
  have sized : (before ++ [byte]).length = position + 4 := by
    rw [List.length_append, size]
    rfl
  have parts : bytes = before ++ [byte] ++ rest := by rw [whole, List.append_assoc]; rfl
  -- A front of the bytes has the end of the headers exactly if it reaches as far.
  have seen (count : Nat) (fits : position + 4 ≤ count) :
      firstAt blankLine (bytes.take count) = some position :=
    (firstAt_take filled).mpr ⟨found, fits⟩
  have unseen : firstAt blankLine before = none := by
    by_contra other
    obtain ⟨place, other⟩ := Option.ne_none_iff_exists'.mp other
    have front : before = bytes.take (position + 3) := by
      rw [whole, ← size, List.take_left]
    rw [front] at other
    obtain ⟨other, inside⟩ := (firstAt_take filled).mp other
    cases found.symm.trans other
    omega
  have ended : firstAt blankLine (before ++ [byte]) = some position := by
    have front := seen (position + 4) (Nat.le_refl _)
    rwa [parts, ← sized, List.take_left] at front
  let incoming : Arriving :=
    ⟨[⟨before, present⟩, ⟨[byte], List.cons_ne_nil _ _⟩, ⟨rest, more⟩], ending⟩
  have all : incoming.bytes = bytes := by
    simp only [incoming, Arriving.bytes, List.flatMap_cons, List.flatMap_nil, List.append_nil]
    rw [whole]
    rfl
  refine ⟨incoming, all, rfl, ?_⟩
  -- The first segment is read without an end, and the second one brings it, and nothing else.
  have headers : readHeaders [] incoming =
      .ok (before ++ [byte], position + 4, ⟨[⟨rest, more⟩], ending⟩) := by
    have first : readHeaders [] incoming =
        readHeaders before ⟨[⟨[byte], List.cons_ne_nil _ _⟩, ⟨rest, more⟩], ending⟩ := by
      refine readHeaders_segment unseen ?_
      rw [List.nil_append, size]
      omega
    have single : (Arriving.mk [⟨[byte], List.cons_ne_nil _ _⟩, ⟨rest, more⟩] ending).read chunkSize =
        .ok ([byte], ⟨[⟨rest, more⟩], ending⟩) := rfl
    rw [first, readHeaders_of_read single (List.cons_ne_nil _ _), if_neg (by rw [sized]; omega),
      ended]
  -- From there on, the request is read as it always is.
  have same := readHttpRequest_of_headers headers (by rw [all, found]) ?_ rfl (by omega) early
  · rw [same, all]
  · rw [all, parts]
    simp [Arriving.bytes]

end Reading

/--
A request does not depend on how its bytes arrive, unless its headers straddle the limit.

It is the one that the bytes begin with, for whatever segments they come in. Where the headers end
less than a chunk before the limit, and more bytes than the limit are sent, the request is read from
some segments, and refused as too large from others.
-/
theorem requests_are_read_alike (bytes : Bytes) (ending : Ending) :
    (¬ Straddles bytes → ∀ incoming : Arriving, incoming.bytes = bytes → incoming.ending = ending →
      readHttpRequest incoming = requestIn bytes ending) ∧
    (Straddles bytes →
      (∃ incoming : Arriving, incoming.bytes = bytes ∧ incoming.ending = ending ∧
        readHttpRequest incoming = requestIn bytes ending) ∧
      (∃ incoming : Arriving, incoming.bytes = bytes ∧ incoming.ending = ending ∧
        readHttpRequest incoming = .error (.error "HTTP headers too large")) ∧
      ∀ incoming : Arriving, incoming.bytes = bytes → incoming.ending = ending →
        readHttpRequest incoming = requestIn bytes ending ∨
          readHttpRequest incoming = .error (.error "HTTP headers too large")) := by
  refine ⟨?_, fun straddles => ⟨exists_segments_read straddles ending,
    exists_segments_too_large straddles ending, ?_⟩⟩
  · rintro whole incoming rfl rfl
    exact (readHttpRequest_cases incoming).resolve_right fun refused => whole refused.1
  · rintro incoming rfl rfl
    exact (readHttpRequest_cases incoming).imp_right And.right

section Lines

variable {line : List Char} {lines : List (List Char)} {tail : List Char} {request : DesktopRequest}

/-- A byte that is a character of its own stands only for that character. -/
theorem notMem_utf8EncodeChar {byte : UInt8} {c : Char} (small : byte.toNat < 128)
    (other : c.toNat ≠ byte.toNat) : byte ∉ String.utf8EncodeChar c := by
  have value : c.val.toNat = c.toNat := rfl
  -- All bytes of a longer character are above these.
  have wide (number : Nat) (large : 128 ≤ number % 256) : byte ≠ UInt8.ofNat number := by
    intro same
    have number := congrArg UInt8.toNat same
    rw [UInt8.toNat_ofNat'] at number
    omega
  intro member
  unfold String.utf8EncodeChar at member
  simp only [value] at member
  split at member
  · have same := congrArg UInt8.toNat (List.mem_singleton.mp member)
    rw [UInt8.toNat_ofNat'] at same
    omega
  · split at member
    · simp only [List.mem_cons, List.not_mem_nil, or_false] at member
      rcases member with first | second
      · exact wide _ (by omega) first
      · exact wide _ (by omega) second
    · split at member
      · simp only [List.mem_cons, List.not_mem_nil, or_false] at member
        rcases member with first | second | third
        · exact wide _ (by omega) first
        · exact wide _ (by omega) second
        · exact wide _ (by omega) third
      · simp only [List.mem_cons, List.not_mem_nil, or_false] at member
        rcases member with first | second | third | fourth
        · exact wide _ (by omega) first
        · exact wide _ (by omega) second
        · exact wide _ (by omega) third
        · exact wide _ (by omega) fourth

/-- The bytes of a text without a character that is a byte of its own do not have that byte. -/
theorem notMem_bytes {byte : UInt8} {c : Char} (small : byte.toNat < 128)
    (spelled : c.toNat = byte.toNat) (absent : c ∉ line) :
    byte ∉ line.flatMap String.utf8EncodeChar := by
  intro member
  obtain ⟨other, inside, here⟩ := List.mem_flatMap.mp member
  -- The byte would come from the character that it spells.
  refine notMem_utf8EncodeChar small (fun same => absent ?_) here
  rwa [← Char.toNat_inj.mp (same.trans spelled.symm)]

/-- The bytes of a head are a head of bytes. -/
theorem bytes_headLines (lines : List (List Char)) :
    (headLines '\r' '\n' lines).flatMap String.utf8EncodeChar =
      headLines 13 10 (lines.map fun line => line.flatMap String.utf8EncodeChar) := by
  -- Each line is encoded, and its end is two bytes.
  induction lines with
  | nil => rfl
  | cons line rest ih =>
    simp only [headLines, List.map_cons, List.flatMap_cons, List.flatMap_append] at ih ⊢
    rw [ih]
    rfl

/-- The lines of a head that ends with an empty line. -/
theorem textLines_headLines (whole : ∀ line ∈ lines, '\n' ∉ line) :
    textLines (headLines '\r' '\n' lines ++ ['\r', '\n']) = lines ++ [[]] := by
  have pieces : (headLines '\r' '\n' lines ++ ['\r', '\n']).splitOn '\n' =
      lines.map (· ++ ['\r']) ++ [['\r'], []] := by
    induction lines with
    | nil => rfl
    | cons line rest ih =>
      -- A line and its return are one piece, up to the line feed.
      have absent : '\n' ∉ line ++ ['\r'] := by
        simp [whole line List.mem_cons_self]
      have split : headLines '\r' '\n' (line :: rest) ++ ['\r', '\n'] =
          (line ++ ['\r']) ++ '\n' :: (headLines '\r' '\n' rest ++ ['\r', '\n']) := by
        simp [headLines]
      rw [split, List.splitOn_append_cons_self_of_not_mem absent,
        ih fun other member => whole other (List.mem_cons_of_mem _ member)]
      rfl
  -- The returns go, and the empty piece at the end is no line.
  have stripped (line : List Char) : stripReturn (line ++ ['\r']) = line := by
    simp [stripReturn]
  rw [textLines, pieces]
  simp [List.map_map, Function.comp_def, stripped]
  rfl

/-- The first line of a text is the one before its first ending. -/
theorem head_textLines (whole : '\n' ∉ line) (tail : List Char) :
    (textLines (line ++ '\r' :: '\n' :: tail)).headD [] = line := by
  have absent : '\n' ∉ line ++ ['\r'] := by simp [whole]
  have split : line ++ '\r' :: '\n' :: tail = (line ++ ['\r']) ++ '\n' :: tail := by simp
  obtain ⟨piece, pieces, more⟩ := List.exists_cons_of_ne_nil (List.splitOn_ne_nil '\n' tail)
  rw [textLines, split, List.splitOn_append_cons_self_of_not_mem absent, more]
  simp [stripReturn]

/-- Numbers are read as they are written, behind a blank, too. -/
theorem parseUsize_trim {number : Nat} (fits : number ≤ u64Max) :
    parseUsize (trim (' ' :: Nat.toDigits 10 number)) = some number := by
  -- Digits are no blanks, so only the blank in front is cut off.
  have digital : ∀ c ∈ Nat.toDigits 10 number, c.isDigit = true := fun c member =>
    Nat.isDigit_of_mem_toDigits (by decide) (by decide) member
  have solid : ∀ c ∈ Nat.toDigits 10 number, ¬ isWhitespace c = true := by
    intro c member blank
    have digit := digital c member
    simp only [Char.isDigit, Bool.and_eq_true, decide_eq_true_eq] at digit
    have lower : 48 ≤ c.toNat := UInt32.le_iff_toNat_le.mp digit.1
    have upper : c.toNat ≤ 57 := UInt32.le_iff_toNat_le.mp digit.2
    simp only [isWhitespace, Bool.or_eq_true, Bool.and_eq_true, decide_eq_true_eq, beq_iff_eq] at blank
    omega
  have present : Nat.toDigits 10 number ≠ [] := Nat.toDigits_ne_nil
  have trimmed : trim (' ' :: Nat.toDigits 10 number) = Nat.toDigits 10 number := by
    have blank : isWhitespace ' ' = true := by decide
    rw [trim, List.dropWhile_cons_of_pos blank, List.dropWhile_eq_self_iff.mpr fun inside =>
      solid _ (List.getElem_mem inside), List.rdropWhile_eq_self_iff.mpr fun some =>
      solid _ (List.getLast_mem some)]
  -- There is no sign either, so all of it is digits.
  have unsigned : (Nat.toDigits 10 number).head? ≠ some '+' := by
    intro plus
    exact absurd (digital '+' (List.mem_of_mem_head? plus)) (by decide)
  have value : decimalValue (Nat.toDigits 10 number) = number := Nat.ofDigitChars_ten_toDigits
  rw [trimmed, parseUsize, if_neg unsigned, if_pos, value]
  exact ⟨present, List.all_eq_true.mpr digital, by rw [value]; exact fits⟩

/-- The text of a head. -/
theorem toList_httpHead (lines : List String) : (httpHead lines).toList =
    headLines '\r' '\n' (lines.map String.toList) ++ ['\r', '\n'] := by
  have ending : crlf.toList = ['\r', '\n'] := by decide
  -- Each line is followed by its ending, and the last ending is that of no line.
  induction lines with
  | nil => exact ending
  | cons line rest ih =>
    rw [httpHead, String.toList_append, String.toList_append, ih, ending, List.map_cons, headLines,
      headLines, List.flatMap_cons, List.append_assoc, List.append_assoc, List.append_assoc]

/-- A line that ends with the digits of a number. -/
theorem toList_append_toString (text : String) (number : Nat) :
    (text ++ toString number).toList = text.toList ++ Nat.toDigits 10 number := by
  rw [String.toList_append]
  exact congrArg _ Nat.toList_repr

/-- The characters of the lines of a request. -/
def DesktopRequest.headerLines (self : DesktopRequest) : List (List Char) :=
  [self.method.toList ++ ' ' :: (self.path.toList ++ " HTTP/1.1".toList), "Host: awenet".toList,
    "Content-Type: application/json".toList,
    "Content-Length: ".toList ++ Nat.toDigits 10 (self.body.getD "").utf8ByteSize,
    "Connection: close".toList]

/-- The lines of a request consist of these characters. -/
theorem DesktopRequest.map_lines (request : DesktopRequest) :
    request.lines.map String.toList = request.headerLines := by
  have first : (request.method ++ " " ++ request.path ++ " HTTP/1.1").toList =
      request.method.toList ++ ' ' :: (request.path.toList ++ " HTTP/1.1".toList) := by
    rw [String.toList_append, String.toList_append, String.toList_append, List.append_assoc,
      List.append_assoc]
    rfl
  rw [lines, headerLines, List.map_cons, List.map_cons, List.map_cons, List.map_cons,
    List.map_cons, List.map_nil, first, toList_append_toString]

/-- A request is its head, an empty line and its body. -/
theorem DesktopRequest.toList_text (request : DesktopRequest) : request.text.toList =
    headLines '\r' '\n' request.headerLines ++ '\r' :: '\n' :: (request.body.getD "").toList := by
  rw [text, String.toList_append, toList_httpHead, request.map_lines, List.append_assoc]
  rfl

/-- A request whose method is a word, and whose path is one without blanks. -/
structure DesktopRequest.Plain (request : DesktopRequest) : Prop where
  method : request.method.toList ≠ [] ∧ ∀ c ∈ request.method.toList, c.isAlpha = true
  path : request.path.toList ≠ [] ∧ ∀ c ∈ request.path.toList, isWhitespace c = false

namespace DesktopRequest.Plain

/-- No line of a head is broken. -/
theorem notMem (plain : request.Plain) {mark : Char} (ending : mark = '\r' ∨ mark = '\n') :
    ∀ line ∈ request.headerLines, mark ∉ line := by
  -- The marks are neither letters nor digits, but they are blanks.
  have blank : isWhitespace mark = true := by rcases ending with rfl | rfl <;> decide
  have letter : mark.isAlpha = false := by rcases ending with rfl | rfl <;> decide
  have digit : mark.isDigit = false := by rcases ending with rfl | rfl <;> decide
  intro line member
  simp only [headerLines, List.mem_cons, List.not_mem_nil, or_false] at member
  rcases member with rfl | rfl | rfl | rfl | rfl
  -- The request line: letters, a path without blanks, and a fixed text.
  · intro inside
    rcases List.mem_append.mp inside with inside | inside
    · cases letter.symm.trans (plain.method.2 mark inside)
    · rcases List.mem_cons.mp inside with space | inside
      -- Fixed lines are looked at.
      · rcases ending with rfl | rfl <;> cases space
      · rcases List.mem_append.mp inside with inside | inside
        · cases blank.symm.trans (plain.path.2 mark inside)
        · rcases ending with rfl | rfl <;> exact absurd inside (by decide)
  · rcases ending with rfl | rfl <;> decide
  · rcases ending with rfl | rfl <;> decide
  · intro inside
    rcases List.mem_append.mp inside with inside | inside
    · rcases ending with rfl | rfl <;> exact absurd inside (by decide)
    · cases digit.symm.trans (Nat.isDigit_of_mem_toDigits (by decide) (by decide) inside)
  · rcases ending with rfl | rfl <;> decide

/-- No line of a head is empty. -/
theorem filled (request : DesktopRequest) : ∀ line ∈ request.headerLines, line ≠ [] := by
  intro line member
  simp only [headerLines, List.mem_cons, List.not_mem_nil, or_false] at member
  rcases member with rfl | rfl | rfl | rfl | rfl
  · simp
  · decide
  · decide
  · intro none
    exact absurd (List.append_eq_nil_iff.mp none).1 (by decide)
  · decide

/-- The first line of a request states no length. -/
theorem statedLength_first (plain : request.Plain) : statedLength
    (request.method.toList ++ ' ' :: (request.path.toList ++ " HTTP/1.1".toList)) = none := by
  -- The first colon, if there is one, is in the path or behind it.
  have absent : ':' ∉ request.method.toList ++ [' '] := by
    intro inside
    rcases List.mem_append.mp inside with inside | inside
    · exact absurd (plain.method.2 ':' inside) (by decide)
    · exact absurd inside (by decide)
  have split : request.method.toList ++ ' ' :: (request.path.toList ++ " HTTP/1.1".toList) =
      (request.method.toList ++ [' ']) ++ (request.path.toList ++ " HTTP/1.1".toList) := by simp
  rw [statedLength, split, firstAt_append absent]
  cases firstAt [':'] (request.path.toList ++ " HTTP/1.1".toList) with
  | none => rfl
  | some place =>
    -- A name that ends behind the method has the blank behind that.
    dsimp only [Option.map_some]
    rw [if_neg]
    intro same
    have blank : ' ' ∈ ((request.method.toList ++ [' '] ++ (request.path.toList ++
        " HTTP/1.1".toList)).take (place + (request.method.toList ++ [' ']).length)).map
        Char.toLower := by
      rw [Nat.add_comm, List.take_length_add_append, List.map_append, List.map_append]
      exact List.mem_append_left _ (List.mem_append_right _ (by decide))
    rw [same] at blank
    exact absurd blank (by decide)

/-- The head of a request states how long its body is. -/
theorem contentLength_head (plain : request.Plain)
    (fits : (request.body.getD "").utf8ByteSize ≤ u64Max) :
    contentLength (utf8 (.ofList (headLines '\r' '\n' request.headerLines ++ ['\r', '\n']))) =
      (request.body.getD "").utf8ByteSize := by
  -- The fourth line states the length, and those before state none.
  have fourth : statedLength ("Content-Length: ".toList ++
      Nat.toDigits 10 (request.body.getD "").utf8ByteSize) =
        some (request.body.getD "").utf8ByteSize := by
    generalize (request.body.getD "").utf8ByteSize = number at fits ⊢
    have place : firstAt [':'] ("Content-Length: ".toList ++ Nat.toDigits 10 number) = some 14 := rfl
    have name : (("Content-Length: ".toList ++ Nat.toDigits 10 number).take 14).map Char.toLower =
        "content-length".toList := rfl
    rw [statedLength, place]
    dsimp only
    rw [if_pos name]
    exact parseUsize_trim fits
  have second : statedLength "Host: awenet".toList = none := by decide
  have third : statedLength "Content-Type: application/json".toList = none := by decide
  -- The head is a text, so nothing is lost when it is read as one.
  have lossless : fromUtf8Lossy (utf8 (.ofList (headLines '\r' '\n' request.headerLines ++
      ['\r', '\n']))) = .ofList (headLines '\r' '\n' request.headerLines ++ ['\r', '\n']) := by
    rw [fromUtf8Lossy, ofUtf8_utf8]
  rw [contentLength, lossless, String.toList_ofList, textLines_headLines (plain.notMem (.inr rfl)),
    headerLines]
  simp only [List.cons_append, List.findSome?_cons, plain.statedLength_first, second, third, fourth,
    Option.getD_some]

/-- The bytes of a request are its head, an empty line and its body. -/
theorem utf8_text (request : DesktopRequest) : utf8 request.text =
    utf8 (.ofList (headLines '\r' '\n' request.headerLines ++ ['\r', '\n'])) ++
      utf8 (request.body.getD "") := by
  have whole : request.text = .ofList ((headLines '\r' '\n' request.headerLines ++ ['\r', '\n']) ++
      (request.body.getD "").toList) := by
    rw [← String.toList_inj, String.toList_ofList, request.toList_text]
    simp
  rw [whole, utf8_ofList, List.flatMap_append, ← utf8_ofList, ← utf8_ofList, String.ofList_toList]

/-- The headers of a request end with its head. -/
theorem firstAt_utf8_text (plain : request.Plain) : firstAt blankLine (utf8 request.text) =
    some ((utf8 (.ofList (headLines '\r' '\n' request.headerLines ++ ['\r', '\n']))).length - 4) := by
  -- Lines of bytes are neither broken nor empty, as those of characters are not.
  have whole : ∀ line ∈ request.headerLines.map (·.flatMap String.utf8EncodeChar),
      (13 : UInt8) ∉ line := by
    intro line member
    obtain ⟨text, inside, rfl⟩ := List.mem_map.mp member
    exact notMem_bytes (c := '\r') (by decide) rfl (plain.notMem (.inl rfl) text inside)
  have filled : ∀ line ∈ request.headerLines.map (·.flatMap String.utf8EncodeChar), line ≠ [] := by
    intro line member
    obtain ⟨text, inside, rfl⟩ := List.mem_map.mp member
    obtain ⟨c, rest, spelled⟩ := List.exists_cons_of_ne_nil (filled request text inside)
    rw [spelled, List.flatMap_cons]
    simp
  rw [utf8_text, utf8_ofList, List.flatMap_append, bytes_headLines]
  obtain ⟨first, lines, spelled⟩ : ∃ first lines,
      request.headerLines.map (·.flatMap String.utf8EncodeChar) = first :: lines := ⟨_, _, rfl⟩
  rw [spelled] at whole filled ⊢
  have distinct : (10 : UInt8) ≠ 13 := by decide
  have found := firstAt_headLines distinct whole
    (fun line member => filled line (List.mem_cons_of_mem _ member)) (utf8 (request.body.getD ""))
  have ending : ['\r', '\n'].flatMap String.utf8EncodeChar = [13, 10] := by decide
  rw [ending, List.append_assoc]
  refine found.trans (congrArg some ?_)
  rw [List.length_append]
  rfl

/-- The head of a request is little longer than its method and its path. -/
theorem length_head_le (fits : (request.body.getD "").utf8ByteSize ≤ bodyLimit) :
    (utf8 (.ofList (headLines '\r' '\n' request.headerLines ++ ['\r', '\n']))).length ≤
      request.method.utf8ByteSize + request.path.utf8ByteSize + 125 := by
  have text (value : String) : byteCount value.toList = value.utf8ByteSize := by
    rw [← utf8ByteSize_ofList, String.ofList_toList]
  -- A body that is allowed has a length of eight digits at most.
  have digits : byteCount (Nat.toDigits 10 (request.body.getD "").utf8ByteSize) ≤ 8 := by
    generalize (request.body.getD "").utf8ByteSize = number at fits ⊢
    rw [← utf8ByteSize_ofList, utf8ByteSize_of_digits fun c member =>
      Nat.isDigit_of_mem_toDigits (by decide) (by decide) member,
      Nat.length_toDigits_le_iff (by decide) (by decide)]
    have most : bodyLimit = 67108864 := rfl
    omega
  -- All the rest of the head is fixed.
  have ending : byteCount ['\r', '\n'] = 2 := by decide
  have version : byteCount " HTTP/1.1".toList = 9 := by decide
  have host : byteCount "Host: awenet".toList = 12 := by decide
  have kind : byteCount "Content-Type: application/json".toList = 30 := by decide
  have stated : byteCount "Content-Length: ".toList = 16 := by decide
  have connection : byteCount "Connection: close".toList = 17 := by decide
  rw [length_utf8, utf8ByteSize_ofList, headLines, headerLines]
  simp only [List.flatMap_cons, List.flatMap_nil, byteCount_append, byteCount_cons, byteCount_nil,
    text request.method, text request.path, ending, version, host, kind, stated, connection]
  have blank : ' '.utf8Size = 1 := by decide
  omega

/-- A head has two endings at least. -/
theorem le_length_head (request : DesktopRequest) :
    4 ≤ (utf8 (.ofList (headLines '\r' '\n' request.headerLines ++ ['\r', '\n']))).length := by
  have ending : byteCount ['\r', '\n'] = 2 := by decide
  rw [length_utf8, utf8ByteSize_ofList, byteCount_append, headLines, headerLines, List.flatMap_cons,
    byteCount_append, byteCount_append, ending]
  omega

/-- The bytes of a request are read as it was written. -/
theorem requestIn_text (plain : request.Plain) (ending : Ending)
    (fits : (request.body.getD "").utf8ByteSize ≤ bodyLimit)
    (small : request.method.utf8ByteSize + request.path.utf8ByteSize ≤ 61000) :
    ¬ Straddles (utf8 request.text) ∧ requestIn (utf8 request.text) ending = .ok request.text := by
  have found := plain.firstAt_utf8_text
  have size := length_head_le fits
  have stated := plain.contentLength_head (Nat.le_trans fits (by decide))
  have whole := utf8_text request
  have most : headerLimit = 65536 := rfl
  have each : chunkSize = 4096 := rfl
  have least := le_length_head request
  generalize utf8 (.ofList (headLines '\r' '\n' request.headerLines ++ ['\r', '\n'])) = head at *
  have sum : head.length - 4 + 4 = head.length := by omega
  have body : (utf8 (request.body.getD "")).length = (request.body.getD "").utf8ByteSize := rfl
  -- The head is far below the limit, so it is never read as too large.
  constructor
  · rintro ⟨position, seen, _, late, _⟩
    cases found.symm.trans seen
    omega
  · rw [requestIn, found]
    dsimp only
    -- What is behind the head has the length that it states.
    have front : (utf8 request.text).take head.length = head := by rw [whole, List.take_left]
    have all : (utf8 request.text).length = head.length + (request.body.getD "").utf8ByteSize := by
      rw [whole, List.length_append, body]
    rw [if_neg (by omega), sum, front, stated, if_neg (by omega), if_neg (by omega), ← all,
      List.take_length, ofUtf8_utf8]
    rfl

/-- What the product sees of a request: its method, its path without a query, and its body up to an
empty line. -/
theorem viewRequest_text (plain : request.Plain) : viewRequest request.text =
    { method := request.method.toList
      path := request.path.toList.takeWhile (· ≠ '?')
      body := untilBlank (request.body.getD "").toList } := by
  have unbroken := plain.notMem (.inr rfl)
  -- The request line is what stands before the first ending.
  have first : request.text.toList = (request.method.toList ++
      ' ' :: (request.path.toList ++ " HTTP/1.1".toList)) ++ '\r' :: '\n' ::
        (headLines '\r' '\n' request.headerLines.tail ++
          '\r' :: '\n' :: (request.body.getD "").toList) := by
    rw [request.toList_text]
    simp [headLines, headerLines]
  have requestLine := head_textLines (unbroken _ List.mem_cons_self)
    (headLines '\r' '\n' request.headerLines.tail ++
      '\r' :: '\n' :: (request.body.getD "").toList)
  rw [← first] at requestLine
  -- Letters are no blanks.
  have solid : ∀ c ∈ request.method.toList, isWhitespace c = false := by
    intro c member
    have letter := plain.method.2 c member
    simp only [Char.isAlpha, Char.isUpper, Char.isLower, Bool.or_eq_true, Bool.and_eq_true,
      decide_eq_true_eq] at letter
    have bounds : 65 ≤ c.toNat ∧ c.toNat ≤ 122 := by
      rcases letter with ⟨lower, upper⟩ | ⟨lower, upper⟩
      · exact ⟨UInt32.le_iff_toNat_le.mp lower,
          (UInt32.le_iff_toNat_le.mp upper).trans (by decide)⟩
      · exact ⟨(by decide : 65 ≤ 97).trans (UInt32.le_iff_toNat_le.mp lower),
          UInt32.le_iff_toNat_le.mp upper⟩
    by_contra blank
    rw [Bool.not_eq_false] at blank
    simp only [isWhitespace, Bool.or_eq_true, Bool.and_eq_true, decide_eq_true_eq, beq_iff_eq] at blank
    omega
  -- The line is cut at its two blanks.
  have words : splitWhitespace (request.method.toList ++
      ' ' :: (request.path.toList ++ " HTTP/1.1".toList)) =
        [request.method.toList, request.path.toList, "HTTP/1.1".toList] := by
    have version : " HTTP/1.1".toList = ' ' :: "HTTP/1.1".toList := by decide
    have last : ∀ c ∈ "HTTP/1.1".toList, isWhitespace c = false := by
      have none : "HTTP/1.1".toList.any isWhitespace = false := by decide
      simpa only [List.any_eq_false, Bool.not_eq_true] using none
    rw [splitWhitespace, List.splitOnP_append_cons_of_forall_mem solid ' ' (by decide), version,
      List.splitOnP_append_cons_of_forall_mem plain.path.2 ' ' (by decide),
      List.splitOnP_eq_singleton last]
    simp [plain.method.1, plain.path.1]
  have distinct : '\n' ≠ '\r' := by decide
  -- The body is what follows the first empty line.
  have body := secondPiece_headLines distinct (plain.notMem (.inl rfl))
    (fun line member => filled request line (List.mem_cons_of_mem _ member))
    (request.body.getD "").toList
  have second : secondPiece blankText request.text.toList =
      some (untilBlank (request.body.getD "").toList) := by
    rw [request.toList_text]
    exact body
  rw [viewRequest, requestLine, words, second]
  rfl

end DesktopRequest.Plain

/-- A body is whole up to its first empty line exactly if it has none. -/
theorem untilBlank_eq_iff (body : List Char) : untilBlank body = body ↔ ¬ blankText <:+: body := by
  have present : blankText ≠ [] := by decide
  rw [untilBlank, ← firstAt_eq_none_iff present]
  -- Up to an empty line, the body is shorter than it is.
  cases found : firstAt blankText body with
  | none => simp
  | some place =>
    have size := ((firstAt_eq_some_iff present).mp found).1.length_le
    have four : blankText.length = 4 := rfl
    rw [List.length_drop] at size
    refine iff_of_false (fun whole => ?_) (by simp)
    have shorter := congrArg List.length whole
    rw [List.length_take] at shorter
    omega

/-- No line of the head of an answer is broken. -/
theorem notMem_responseLines {status contentType : String} (body : String)
    (statusWhole : '\r' ∉ status.toList) (typeWhole : '\r' ∉ contentType.toList) :
    ∀ line ∈ (responseLines status contentType body).map String.toList, '\r' ∉ line := by
  have joined {left right : String} (first : '\r' ∉ left.toList) (second : '\r' ∉ right.toList) :
      '\r' ∉ (left ++ right).toList := by
    rw [String.toList_append, List.mem_append]
    exact fun inside => inside.elim first second
  -- Digits are no ending of a line.
  have number : '\r' ∉ (toString body.utf8ByteSize).toList := by
    intro inside
    rw [show (toString body.utf8ByteSize).toList = Nat.toDigits 10 body.utf8ByteSize from
      Nat.toList_repr] at inside
    exact absurd (Nat.isDigit_of_mem_toDigits (by decide) (by decide) inside) (by decide)
  intro line member
  simp only [responseLines, List.map_cons, List.map_nil, List.mem_cons, List.not_mem_nil,
    or_false] at member
  rcases member with rfl | rfl | rfl | rfl | rfl | rfl | rfl | rfl
  · exact joined (by decide) statusWhole
  · exact joined (by decide) typeWhole
  · exact joined (by decide) number
  all_goals decide

/-- No line of the head of an answer is empty. -/
theorem filled_responseLines (status contentType body : String) :
    ∀ line ∈ (responseLines status contentType body).map String.toList, line ≠ [] := by
  have joined {left right : String} (first : left.toList ≠ []) : (left ++ right).toList ≠ [] := by
    rw [String.toList_append]
    exact List.append_ne_nil_of_left_ne_nil first _
  intro line member
  simp only [responseLines, List.map_cons, List.map_nil, List.mem_cons, List.not_mem_nil,
    or_false] at member
  rcases member with rfl | rfl | rfl | rfl | rfl | rfl | rfl | rfl
  · exact joined (by decide)
  · exact joined (by decide)
  · exact joined (by decide)
  all_goals decide

/-- The desktop takes the body from an answer, up to its first empty line. -/
theorem answerBody_httpResponse {status contentType body : String}
    (statusWhole : '\r' ∉ status.toList) (typeWhole : '\r' ∉ contentType.toList) :
    answerBody (utf8 (httpResponse status contentType body)) = untilBlank body.toList := by
  have distinct : '\n' ≠ '\r' := by decide
  have found := secondPiece_headLines distinct (notMem_responseLines body statusWhole typeWhole)
    (fun line member => filled_responseLines status contentType body line
      (List.mem_cons_of_mem _ member)) body.toList
  -- The answer is its head, whose lines are neither broken nor empty, and its body.
  have second : secondPiece blankText (httpResponse status contentType body).toList =
      some (untilBlank body.toList) := by
    rw [httpResponse, String.toList_append, toList_httpHead, List.append_assoc]
    exact found
  rw [answerBody, fromUtf8Lossy, ofUtf8_utf8]
  dsimp only
  rw [second]
  rfl

end Lines

/--
The desktop and the product understand each other, however their bytes are cut up on the way.

A request is read as it was written, and the product sees its method, its path without a query, and
its body up to an empty line; so much of the body of an answer is what the desktop takes. A body gets
there whole exactly if it has no empty line.
-/
theorem desktop_and_product_understand (request : DesktopRequest) (plain : request.Plain)
    (fits : (request.body.getD "").utf8ByteSize ≤ bodyLimit)
    (small : request.method.utf8ByteSize + request.path.utf8ByteSize ≤ 61000)
    (incoming : Arriving) (arrived : incoming.bytes = utf8 request.text)
    (status contentType answer : String) (statusWhole : '\r' ∉ status.toList)
    (typeWhole : '\r' ∉ contentType.toList) :
    readHttpRequest incoming = .ok request.text ∧
      (viewRequest request.text).method = request.method.toList ∧
      (viewRequest request.text).path = request.path.toList.takeWhile (· ≠ '?') ∧
      (viewRequest request.text).body = untilBlank (request.body.getD "").toList ∧
      answerBody (utf8 (httpResponse status contentType answer)) = untilBlank answer.toList ∧
      ∀ body, untilBlank body = body ↔ ¬ blankText <:+: body := by
  obtain ⟨whole, read⟩ := plain.requestIn_text incoming.ending fits small
  rw [← arrived] at whole read
  have view := plain.viewRequest_text
  refine ⟨?_, by rw [view], by rw [view], by rw [view],
    answerBody_httpResponse statusWhole typeWhole, untilBlank_eq_iff⟩
  -- It is far from the limit, so it is read alike from all segments.
  rw [(readHttpRequest_cases incoming).resolve_right fun refused => whole refused.1, read]

/-- A request for the state of a node is understood when it comes one byte at a time. -/
theorem single_bytes_are_understood :
    let request : DesktopRequest := ⟨"GET", "/api/status?full", none⟩
    let incoming : Arriving :=
      ⟨(utf8 request.text).map fun byte => ⟨[byte], List.cons_ne_nil _ _⟩, .silent⟩
    readHttpRequest incoming = .ok request.text ∧
      (viewRequest request.text).path = "/api/status".toList := by
  intro request incoming
  have arrived : incoming.bytes = utf8 request.text := by
    simp only [incoming, Arriving.bytes, List.flatMap_map]
    exact List.flatMap_singleton' _
  have solid : "/api/status?full".toList.any isWhitespace = false := by decide
  have plain : request.Plain := ⟨⟨by decide, List.all_eq_true.mp (by decide)⟩, by decide,
    fun c member => Bool.not_eq_true _ ▸ List.any_eq_false.mp solid c member⟩
  obtain ⟨read, _, path, _⟩ := desktop_and_product_understand request plain (by decide) (by decide)
    incoming arrived "200 OK" "text/plain" "" (by decide) (by decide)
  refine ⟨read, path.trans ?_⟩
  decide

end Awe
