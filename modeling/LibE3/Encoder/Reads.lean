import LibE3.Encoder.Asn1
import LibE3.Encoder.Json
import LibE3.Lib.Faults
import Mathlib.Algebra.Group.Nat.Defs

/-!
# The scanner and the check of UTF-8, access by access

`skip_ws`, `skip_json_string`, `skip_json_value`, `find_top_level_member_span` and `is_utf8` with
every access to the text as a read that may be out of bounds, every loop as a loop that may not
end, and the counter of `skip_json_value` as the `int` it is. Positions are natural numbers: a text
in memory has fewer than 2^63 bytes, so that no sum of a position and a small number wraps.
-/

namespace LibE3

open Faults

/-- The greatest value of an `int`. -/
def intMax : ℕ := 2 ^ 31 - 1

namespace JsonE3Encoder.Reads

variable (limit fuel : ℕ) (text : Bytes)

def wsTurn (pos : ℕ) : Outcome (Loop ℕ ℕ) :=
  if pos < text.length then do
    let c ← read text pos
    if isJsonWs c then return .running (pos + 1) else return .returned pos
  else return .returned pos

def skipWs (pos : ℕ) : Outcome ℕ := loop (wsTurn text) fuel pos

def stringTurn (pos : ℕ) : Outcome (Loop ℕ (Option ℕ)) :=
  if pos < text.length then do
    let c ← read text pos
    if c = 0x5C then
      if pos + 1 ≥ text.length then return .returned none
      else do
        let e ← read text (pos + 1)
        if e = 0x75 then
          if pos + 6 > text.length then return .returned none else return .running (pos + 6)
        else return .running (pos + 2)
    else if c = 0x22 then return .returned (some (pos + 1))
    else return .running (pos + 1)
  else return .returned none

def skipJsonString (pos : ℕ) : Outcome (Option ℕ) :=
  if pos ≥ text.length then return none
  else do
    let c ← read text pos
    if c ≠ 0x22 then return none else loop (stringTurn text) fuel (pos + 1)

/-- A turn of the loop over an object or an array, with the depth and the position. -/
def containerTurn (opening closing : UInt8) :
    ℕ × ℕ → Outcome (Loop (ℕ × ℕ) (Option ℕ))
  | (depth, pos) =>
    if pos < text.length ∧ depth > 0 then do
      let c ← read text pos
      if c = 0x22 then do
        match ← skipJsonString fuel text pos with
        | none => return .returned none
        | some after => return .running (depth, after)
      else if c = opening then do
        let depth ← increment limit depth
        return .running (depth, pos + 1)
      -- the depth is positive, so `--depth` is not below zero
      else if c = closing then return .running (depth - 1, pos + 1)
      else return .running (depth, pos + 1)
    else if depth ≠ 0 then return .returned none
    else return .returned (some pos)

/-- A turn of the loop over a number or a word. -/
def bareTurn (pos : ℕ) : Outcome (Loop ℕ ℕ) :=
  if pos < text.length then do
    let c ← read text pos
    if c = 0x2C ∨ c = 0x7D ∨ c = 0x5D ∨ isJsonWs c then return .returned pos
    else return .running (pos + 1)
  else return .returned pos

/-- `skip_json_value`, where an `int` goes up to `limit`. -/
def skipJsonValue (pos : ℕ) : Outcome (Option ℕ) :=
  if pos ≥ text.length then return none
  else do
    let c ← read text pos
    if c = 0x22 then skipJsonString fuel text pos
    else if c = 0x7B ∨ c = 0x5B then
      loop (containerTurn limit fuel text c (if c = 0x7B then 0x7D else 0x5D)) fuel (1, pos + 1)
    else do
      let after ← loop (bareTurn text) fuel pos
      return some after

/-- `text.compare(start, key.size(), key) == 0`, which throws when `start` is behind the end. -/
def compare (start : ℕ) (key : Bytes) : Outcome Bool :=
  if start > text.length then .error .outOfBounds
  else return (text.drop start).take key.length = key

def keyMatches (keyStart keyEnd : ℕ) (key : Bytes) : Outcome Bool := do
  let size ← subtract keyEnd keyStart
  if size = key.length then compare text keyStart key else return false

/-- What a turn of `find_top_level_member_span` does behind a value. -/
def nextTurn (afterValue : ℕ) : Outcome (Loop ℕ (Option (ℕ × ℕ))) := do
  let pos ← skipWs fuel text afterValue
  if pos < text.length then do
    let c ← read text pos
    if c = 0x2C then return .running (pos + 1) else return .returned none
  else return .returned none

/-- What it does from the value on. -/
def valueTurn (key : Bytes) (keyStart keyEnd valueStart : ℕ) :
    Outcome (Loop ℕ (Option (ℕ × ℕ))) := do
  match ← skipJsonValue limit fuel text valueStart with
  | none => return .returned none
  | some afterValue =>
    let found ← keyMatches text keyStart keyEnd key
    if found then return .returned (some (valueStart, afterValue))
    else nextTurn fuel text afterValue

/-- What it does behind the name. -/
def colonTurn (key : Bytes) (keyStart afterKey : ℕ) : Outcome (Loop ℕ (Option (ℕ × ℕ))) := do
  let keyEnd ← subtract afterKey 1
  let pos ← skipWs fuel text afterKey
  if pos ≥ text.length then return .returned none
  else do
    let c ← read text pos
    if c ≠ 0x3A then return .returned none
    else do
      let pos ← skipWs fuel text (pos + 1)
      valueTurn limit fuel text key keyStart keyEnd pos

/-- A turn of the loop of `find_top_level_member_span`. -/
def memberTurn (key : Bytes) (pos : ℕ) : Outcome (Loop ℕ (Option (ℕ × ℕ))) := do
  let pos ← skipWs fuel text pos
  if pos ≥ text.length then return .returned none
  else do
    let c ← read text pos
    if c = 0x7D then return .returned none
    else if c ≠ 0x22 then return .returned none
    else do
      match ← skipJsonString fuel text pos with
      | none => return .returned none
      | some afterKey => colonTurn limit fuel text key (pos + 1) afterKey

def findTopLevelMemberSpan (objStart : ℕ) (key : Bytes) : Outcome (Option (ℕ × ℕ)) :=
  if objStart ≥ text.length then return none
  else do
    let c ← read text objStart
    if c ≠ 0x7B then return none
    else loop (memberTurn limit fuel text key) fuel (objStart + 1)

end JsonE3Encoder.Reads

/-- The bytes of a span. -/
def JsonE3Encoder.span (text : Bytes) (s : ℕ × ℕ) : Bytes := (text.drop s.1).take (s.2 - s.1)

namespace Reads

variable (fuel : ℕ) (text : Bytes) (size : ℕ)

/-- `p[i]`, where the caller gives `size` bytes of the text. -/
def byteAt (i : ℕ) : Outcome UInt8 := read (text.take size) i

/-- A turn of the loop over the bytes of a character of `len` bytes that starts at `i`, with the
bits so far; it returns nothing for a byte that is no continuation. -/
def continuationTurn (i len : ℕ) : ℕ × UInt32 → Outcome (Loop (ℕ × UInt32) (Option UInt32))
  | (k, cp) =>
    if k < len then do
      let b ← byteAt text size (i + k)
      if b &&& 0xC0 ≠ 0x80 then return .returned none
      else return .running (k + 1, cp <<< 6 ||| (b &&& 0x3F).toUInt32)
    else return .returned (some cp)

/-- The checks on a character of `len` bytes whose first byte has these bits. -/
def characterTurn (i len : ℕ) (bits : UInt8) : Outcome (Loop ℕ Bool) :=
  if i + len > size then return .returned false
  else do
    match ← loop (continuationTurn text size i len) fuel (1, bits.toUInt32) with
    | none => return .returned false
    | some cp =>
      if (len = 3 ∧ cp < 0x800) ∨ (len = 4 ∧ (cp < 0x10000 ∨ cp > 0x10FFFF))
          ∨ (cp ≥ 0xD800 ∧ cp ≤ 0xDFFF) then return .returned false
      else return .running (i + len)

def utf8Turn (i : ℕ) : Outcome (Loop ℕ Bool) :=
  if i < size then do
    let c ← byteAt text size i
    if c < 0x80 then return .running (i + 1)
    else if c ≥ 0xC2 ∧ c ≤ 0xDF then characterTurn fuel text size i 2 (c &&& 0x1F)
    else if c ≥ 0xE0 ∧ c ≤ 0xEF then characterTurn fuel text size i 3 (c &&& 0x0F)
    else if c ≥ 0xF0 ∧ c ≤ 0xF4 then characterTurn fuel text size i 4 (c &&& 0x07)
    else return .returned false
  else return .returned true

def isUtf8 : Outcome Bool := loop (utf8Turn fuel text size) fuel 0

end Reads

end LibE3
