import LowPowerPayload.Registry
/-!
# Reading a payload frame by frame

A payload is a sequence of frames `[channel][type id][data]`, the width of the data given by
the registry's descriptor for the type id. `Registry.scan` reads frames from the front until the
bytes run out or a frame fails. The decoded payload maps `"<name>_<channel>"` to each frame's
reading in frame order, a repeated key keeping its first place and taking the later reading.

A failure stops the reading; the frames before it are reported as events and then dropped. The
failures, in the order they are checked at a frame: an id with no descriptor, data running past
the end, and the rule failing on the data; after the last frame, a single byte left over.

Widths of registries built by registration are at least one, so the cursor only moves forward
and `Registry.scanFrom` reads the payload as a list. A descriptor seeded with a negative width
moves the cursor back instead; from such a frame on, `Registry.wander` reads the payload by
index, where a negative index counts from the end and a range is cut to the payload, until the
cursor leaves the payload or comes back to an index it has read from.
-/

namespace LowPowerPayload

/-- Why a payload could not be decoded. -/
inductive DecodeError where
  /-- The payload has no bytes. -/
  | empty
  /-- A type id has no descriptor (`offset` is the index of the id, negative when the cursor
  counts from the end), or a standard descriptor's id has no fixed rule (no offset). -/
  | unknownType (typeId : Int) (offset : Option Int)
  /-- A frame's data runs past the end: `offset` is the index of its first data byte, and
  `available` the number of bytes from there to the end. -/
  | insufficient (name : String) (typeId : Nat) (offset : Int) (needed : Int) (available : Nat)
  /-- Bytes are left after the last whole frame. -/
  | trailing (offset : Nat) (count : Nat)
  /-- A custom type has no rule. -/
  | noRule (name : String) (typeId : Int)
  /-- A custom type's rule failed. -/
  | ruleFailed (name : String) (typeId : Int) (cause : Fault)
  /-- A frame's width sends the cursor back to a frame already read, so reading never ends. -/
  | endless (offset : Int)

/-- A failure of decoding: a payload error, or a fault of a standard rule that passes through
as it is. -/
inductive DecodeFailure where
  | payload (e : DecodeError)
  | fault (f : Fault)

/-- Applies a descriptor's rule to a frame's data. Follows `_apply_rule`,
`src/cayenne_lpp/protocol/decoder.py:84-102`. -/
def Descriptor.apply (d : Descriptor) (data : List UInt8) : Except DecodeFailure Reading :=
  if d.standard then
    match StandardRule.ofId? d.typeId with
    | none => .error (.payload (.unknownType d.typeId none))
    | some rule => (rule.run data).mapError .fault
  else
    match d.rule with
    | .missing => .error (.payload (.noRule d.name d.typeId))
    | .inert v => .error (.payload (.ruleFailed d.name d.typeId (.notCallable v.typeName)))
    | .ready rule => (rule.run data).mapError (fun f => .payload (.ruleFailed d.name d.typeId f))

/-- One decoded frame. -/
structure Frame where
  channel : Nat
  typeId : Nat
  width : Int
  /-- The index of the first data byte; a negative index counts from the end. -/
  offset : Int
  key : String
  reading : Reading

/-- The frames read from a payload, and the failure that stopped the reading. -/
structure Scan where
  frames : List Frame
  failure : Option DecodeFailure

/-- Prepends a frame to a scan. -/
def Scan.cons (f : Frame) (s : Scan) : Scan := ⟨f :: s.frames, s.failure⟩

/-- A scan that stopped with a failure before any further frame. -/
def Scan.stop (e : DecodeFailure) : Scan := ⟨[], some e⟩

/-- The byte at an index of a payload; a negative index counts from the end, `-1` being the
last byte. -/
def byteAt? (bs : List UInt8) (i : Int) : Option UInt8 :=
  let j := if i < 0 then i + bs.length else i
  if 0 ≤ j then bs[j.toNat]? else none

/-- An index of a payload of `n` bytes as a place from `0` to `n`: a negative index counts from
the end, and an index outside is cut to the nearest end. -/
def placeOf (n : Nat) (i : Int) : Nat :=
  if i < 0 then (i + n).toNat else min i.toNat n

/-- The bytes from index `start` up to, not including, index `stop`, both read by `placeOf`;
none when `stop` comes first. -/
def between (bs : List UInt8) (start stop : Int) : List UInt8 :=
  let a := placeOf bs.length start
  (bs.drop a).take (placeOf bs.length stop - a)

/-- At an index that counts from the front, `byteAt?` is plain list access. -/
theorem byteAt?_natCast (bs : List UInt8) (i : Nat) : byteAt? bs (i : Int) = bs[i]? := by
  have h : ¬ ((i : Int) < 0) := by omega
  simp [byteAt?, h]

/-- Between two indices that count from the front and lie within the payload, `between` is the
bytes from the first up to the second. -/
theorem between_natCast (bs : List UInt8) (a b : Nat) (hb : b ≤ bs.length) :
    between bs (a : Int) (b : Int) = (bs.drop a).take (b - a) := by
  have ha : min a bs.length = a ∨ b ≤ a := by omega
  simp only [between, placeOf, Int.natCast_nonneg, Int.not_lt.mpr, if_false, Int.toNat_natCast,
    Nat.min_eq_left hb]
  rcases ha with ha | ha
  · rw [ha]
  · have hd : b - a = 0 := by omega
    have hd' : b - min a bs.length = 0 := by omega
    rw [hd, hd', List.take_zero, List.take_zero]

namespace Registry

/-- Reads frames by index from `pos` on. `fuel` bounds the number of frames read: an index that
leaves a header to read lies in `-n .. n - 2` for a payload of `n` bytes, so reading `2 * n` frames
visits some index twice and, the reading of a frame depending on its index alone, goes round for
ever. Follows the frame loop of `decode`, `src/cayenne_lpp/protocol/decoder.py:43-71`. -/
def wander (r : Registry) (payload : List UInt8) : Nat → Int → Scan
  | 0, pos => .stop (.payload (.endless pos))
  | fuel + 1, pos =>
    let total : Int := payload.length
    if total < pos + 2 then
      if pos = total then ⟨[], none⟩ else .stop (.payload (.trailing pos.toNat (total - pos).toNat))
    else
      match byteAt? payload pos, byteAt? payload (pos + 1) with
      | some c, some t =>
        match r.find? t.toNat with
        | none => .stop (.payload (.unknownType t.toNat (some (pos + 1))))
        | some d =>
          let start := pos + 2
          if total < start + d.width then
            .stop (.payload (.insufficient d.name t.toNat start d.width (total - start).toNat))
          else
            match d.apply (between payload start (start + d.width)) with
            | .error e => .stop e
            | .ok v =>
              (wander r payload fuel (start + d.width)).cons
                ⟨c.toNat, t.toNat, d.width, start, d.outputKey c.toNat, v⟩
      | _, _ => .stop (.fault .indexOutOfRange)

/-- Reads frames from `bs`, the part of `payload` from index `pos` on, while widths are not
negative; from a frame of negative width on, `wander` reads the payload. Follows the frame loop of
`decode`, `src/cayenne_lpp/protocol/decoder.py:43-79`. -/
def scanFrom (r : Registry) (payload : List UInt8) (pos : Nat) (bs : List UInt8) : Scan :=
  match bs with
  | [] => ⟨[], none⟩
  | [_] => .stop (.payload (.trailing pos 1))
  | c :: t :: more =>
    match r.find? t.toNat with
    | none => .stop (.payload (.unknownType t.toNat (some (pos + 1))))
    | some d =>
      if 0 ≤ d.width then
        let w := d.width.toNat
        if more.length < w then
          .stop (.payload (.insufficient d.name t.toNat (pos + 2) d.width more.length))
        else
          match d.apply (more.take w) with
          | .error e => .stop e
          | .ok v =>
            (scanFrom r payload (pos + 2 + w) (more.drop w)).cons
              ⟨c.toNat, t.toNat, d.width, pos + 2, d.outputKey c.toNat, v⟩
      else r.wander payload (2 * payload.length) pos
termination_by bs.length
decreasing_by simp only [List.length_drop, List.length_cons]; omega

/-- Reads a whole payload; an empty one is refused. Follows `decode`,
`src/cayenne_lpp/protocol/decoder.py:24-81`. -/
def scan (r : Registry) (bs : List UInt8) : Scan :=
  if bs.isEmpty then .stop (.payload .empty) else r.scanFrom bs 0 bs

end Registry

/-- The decoded payload of the frames read, later keys replacing earlier readings in place. -/
def Scan.payload (s : Scan) : KeyedMap Reading :=
  KeyedMap.ofList (s.frames.map (fun f => (f.key, f.reading)))

/-- The outcome of a scan: the decoded payload, or the failure. -/
def Scan.result (s : Scan) : Except DecodeFailure (KeyedMap Reading) :=
  match s.failure with
  | none => .ok s.payload
  | some e => .error e

/-- The event a failure reports, if any. -/
def DecodeFailure.event? : DecodeFailure → Option Event
  | .payload .empty => some .emptyFailed
  | .payload (.unknownType typeId (some offset)) => some (.unknownTypeFailed typeId.toNat offset)
  | .payload (.insufficient name _ _ needed available) =>
    some (.shortFrameFailed name needed available)
  | .payload (.trailing _ count) => some (.trailingFailed count)
  | _ => none

/-- The events of a scan: one per decoded frame, then the failure's. -/
def Scan.events (s : Scan) : List Event :=
  s.frames.map (fun f => .frameDecoded f.channel f.typeId f.width f.offset) ++
    match s.failure.bind DecodeFailure.event? with
    | some e => [e]
    | none => []

/-- Decodes a payload with a registry. Follows `decode`,
`src/cayenne_lpp/protocol/decoder.py:24-81`. -/
def Registry.decode (r : Registry) (bs : List UInt8) : Except DecodeFailure (KeyedMap Reading) :=
  (r.scan bs).result

end LowPowerPayload
