import SqlShell.Files.Locator
import SqlShell.Proofs.Files.NormalPaths
import SqlShell.Proofs.Text.EncodedText

/-! Addresses of files. The bytes of a path are written one by one, as they are or as an escape, and
reading such an address gives the path back: nothing in it is taken for another part of an address.
-/

namespace SqlShell.Url

/-- The byte stands for itself in the address of a file: it is a letter or a digit of ASCII, a separator
of a path, or one of four signs.
-/
def isPlainByte (byte : UInt8) : Bool :=
  let c := Char.ofNat byte.toNat
  isAsciiLetter c || isAsciiDigit c || ['/', '_', '.', '-', '~'].contains c

/-- A hexadecimal digit, with small or capital letters. -/
def hexDigit (capital : Bool) (n : Nat) : Char :=
  if capital then (Nat.digitChar n).toUpper else Nat.digitChar n

/-- A byte in an address: as it is, or as an escape with two hexadecimal digits. -/
def escapeByte (capital : Bool) (byte : UInt8) : List Char :=
  if isPlainByte byte then [Char.ofNat byte.toNat]
  else ['%', hexDigit capital (byte.toNat / 16), hexDigit capital (byte.toNat % 16)]

/-- A path in an address, byte by byte. -/
def escapePath (capital : Bool) (path : List Char) : List Char :=
  (Utf8.encode path).flatMap (escapeByte capital)

/-- The address of the file at a path. -/
def fileAddress (capital : Bool) (path : List Char) : List Char :=
  ['f', 'i', 'l', 'e', ':', '/', '/'] ++ escapePath capital path

-----------------------------------------------------------------------------------------
-- Escapes
-----------------------------------------------------------------------------------------

/-- Every byte is one of those with the numbers below 256. -/
theorem forall_byte {P : UInt8 → Prop} (h : ∀ n < 256, P (UInt8.ofNat n)) (byte : UInt8) : P byte := by
  have hp := h byte.toNat byte.toNat_lt
  rwa [UInt8.ofNat_toNat] at hp

/-- Hexadecimal digits are read as their numbers, by the sixteen of them. -/
theorem hexValue?_hexDigit (capital : Bool) {n : Nat} (h : n < 16)
    : hexValue? (hexDigit capital n) = some n := by
  revert n
  cases capital <;> decide +kernel

/-- A byte that stands for itself is a character other than the sign of escapes, by all bytes. -/
theorem utf8EncodeChar_of_isPlainByte (byte : UInt8)
    : isPlainByte byte = true →
        Char.ofNat byte.toNat ≠ '%' ∧ String.utf8EncodeChar (Char.ofNat byte.toNat) = [byte] := by
  revert byte
  exact forall_byte (by decide +kernel)

/-- What is written for a byte is ASCII, without blanks and without the signs that end the path of an
address. By all bytes.
-/
theorem forall_mem_escapeByte (capital : Bool) (byte : UInt8)
    : ∀ c ∈ escapeByte capital byte,
        isAscii c = true ∧ c ∉ ['\t', '\r', '\n', '?', '#'] := by
  have hall : (escapeByte capital byte).all (fun c =>
      isAscii c && !(['\t', '\r', '\n', '?', '#'].contains c)) = true := by
    revert byte
    refine forall_byte ?_
    cases capital <;> decide +kernel
  intro c hc
  simpa using List.all_eq_true.mp hall c hc

theorem forall_mem_escapePath (capital : Bool) (path : List Char)
    : ∀ c ∈ escapePath capital path,
        isAscii c = true ∧ c ∉ ['\t', '\r', '\n', '?', '#'] := by
  intro c hc
  obtain ⟨byte, -, hb⟩ := List.mem_flatMap.mp hc
  exact forall_mem_escapeByte capital byte c hb

/-- What is written for a byte is read as this byte. -/
theorem unescapeBytes_escapeByte (capital : Bool) (byte : UInt8) (rest : List Char)
    : unescapeBytes (escapeByte capital byte ++ rest) = byte :: unescapeBytes rest := by
  rw [escapeByte]
  split
  · next hp =>
      obtain ⟨hsign, hbytes⟩ := utf8EncodeChar_of_isPlainByte byte hp
      rw [List.singleton_append, unescapeBytes.eq_3, hbytes, List.singleton_append]
      exact fun a b more hc _ => hsign hc
  · have hlt := byte.toNat_lt
    show unescapeBytes ('%' :: hexDigit capital _ :: hexDigit capital _ :: rest) = _
    rw [unescapeBytes, hexValue?_hexDigit capital (by omega), hexValue?_hexDigit capital (by omega)]
    dsimp only
    rw [Nat.div_add_mod' byte.toNat 16, UInt8.ofNat_toNat]

/-- The bytes that are written are those that are read, by induction on them. -/
theorem unescapeBytes_flatMap (capital : Bool) (bytes : List UInt8)
    : unescapeBytes (bytes.flatMap (escapeByte capital)) = bytes := by
  induction bytes with
  | nil => rw [List.flatMap_nil, unescapeBytes]
  | cons byte rest ih => rw [List.flatMap_cons, unescapeBytes_escapeByte, ih]

/-- A text in ASCII is read as one stretch, by induction on it. -/
theorem unescapeFrom_of_isAscii {text : List Char} (h : ∀ c ∈ text, isAscii c = true)
    (pending : List Char)
    : unescapeFrom pending text = Utf8.decodeLossy (unescapeBytes (pending.reverse ++ text)) := by
  induction text generalizing pending with
  | nil => rw [unescapeFrom, List.append_nil]
  | cons c rest ih =>
      obtain ⟨hc, hrest⟩ := List.forall_mem_cons.mp h
      rw [unescapeFrom, if_pos hc, ih hrest, List.reverse_cons, List.append_assoc,
        List.singleton_append]

/-- A path that is written in an address is read from it. -/
theorem unescape_escapePath (capital : Bool) (path : List Char)
    : unescape (escapePath capital path) = path := by
  rw [unescape, unescapeFrom_of_isAscii fun c hc => (forall_mem_escapePath capital path c hc).1,
    List.reverse_nil, List.nil_append, escapePath, unescapeBytes_flatMap, Utf8.decodeLossy_encode]

-----------------------------------------------------------------------------------------
-- Addresses
-----------------------------------------------------------------------------------------

/-- A path that starts with a separator starts so in an address. -/
theorem exists_escapePath (capital : Bool) {path : List Char} (h : path.head? = some '/')
    : ∃ rest, escapePath capital path = '/' :: rest := by
  obtain ⟨rest, rfl⟩ := List.head?_eq_some_iff.mp h
  exact ⟨escapePath capital rest, rfl⟩

theorem cutAt_of_not_mem {separator : Char} {text : List Char} (h : separator ∉ text)
    : Text.cutAt separator text = (text, none) := by
  induction text with
  | nil => rfl
  | cons c rest ih =>
      obtain ⟨hc, hrest⟩ := not_or.mp (mt List.mem_cons.mpr h)
      rw [Text.cutAt, if_neg (Ne.symm hc), ih hrest]

/-- Nothing is cleaned away from a text without blanks. -/
theorem cleaned_cons {c : Char} {text : List Char} (hc : 0x20 < c.toNat)
    (h : ∀ d ∈ c :: text, d ∉ ['\t', '\r', '\n'])
    : cleaned (c :: text) = c :: text := by
  have hstart : (c :: text).dropWhile (fun d => decide (d.toNat ≤ 0x20)) = c :: text :=
    List.dropWhile_cons_of_neg (by simpa using hc)
  rw [cleaned, hstart]
  refine List.filter_eq_self.mpr fun d hd => ?_
  simpa [and_assoc] using h d hd

/-- The address of a file has no host, and its path is the one that is written. -/
theorem split_fileAddress (capital : Bool) {path : List Char} (h : path.head? = some '/')
    : split (fileAddress capital path) = .ok ⟨['f', 'i', 'l', 'e'], [], escapePath capital path⟩ := by
  have hchars := forall_mem_escapePath capital path
  obtain ⟨rest, hrest⟩ := exists_escapePath capital h
  rw [fileAddress]
  generalize escapePath capital path = written at hchars hrest
  have hkept : ∀ c ∈ ['f', 'i', 'l', 'e', ':', '/', '/'] ++ written, c ∉ ['\t', '\r', '\n'] := by
    refine List.forall_mem_append.mpr ⟨by simp, fun c hc hb => ?_⟩
    exact (hchars c hc).2 (List.mem_append_left ['?', '#'] hb)
  have hcleaned : cleaned (['f', 'i', 'l', 'e', ':', '/', '/'] ++ written) =
      ['f', 'i', 'l', 'e', ':', '/', '/'] ++ written :=
    cleaned_cons (by decide) hkept
  have hscheme : splitScheme (['f', 'i', 'l', 'e', ':', '/', '/'] ++ written) =
      (['f', 'i', 'l', 'e'], '/' :: '/' :: written) :=
    rfl
  have hhost : written.takeWhile (!endsHost ·) = [] := by
    rw [hrest]
    rfl
  have hpath : written.dropWhile (!endsHost ·) = written := by
    rw [hrest]
    rfl
  have hfragment : '#' ∉ written := fun hc => (hchars '#' hc).2 (by simp)
  have hquery : '?' ∉ written := fun hc => (hchars '?' hc).2 (by simp)
  rw [split, hcleaned, hscheme]
  show (checkHost (written.takeWhile (!endsHost ·))).map (fun _ => Parts.mk _
    (written.takeWhile (!endsHost ·))
    (Text.cutAt '?' (Text.cutAt '#' (written.dropWhile (!endsHost ·))).1).1) = _
  rw [hhost, hpath, cutAt_of_not_mem hfragment, cutAt_of_not_mem hquery]
  rfl

end SqlShell.Url

namespace SqlShell.Locator

open Url

/-- The address of a file leads to the path that its text names. -/
theorem ofText_fileAddress (capital : Bool) {path : List Char} (h : path.head? = some '/')
    : ofText (fileAddress capital path) = .ok (.file (Path.ofText path)) := by
  have hscheme : (['f', 'i', 'l', 'e'] == "file".toList) = true := by decide +kernel
  rw [ofText, split_fileAddress capital h]
  show Except.ok (if _ then _ else if _ then _ else _) = _
  rw [if_neg (by simp), if_pos hscheme, unescape_escapePath]

/-- The address of a file names the file that it is made from: for the text of any absolute path in
normal form it leads to the path with this text, and what is read from it is what is read from there.
-/
theorem fileAddress_names_file (capital : Bool) {path : List Char} (h : Path.IsNormal path)
    : ofText (fileAddress capital path) = .ok (.file (Path.ofText path))
      ∧ (Path.ofText path).text = String.ofList path
      ∧ ∀ sources, read sources (fileAddress capital path) =
          readPath sources.files (Path.ofText path) := by
  obtain ⟨hhead, htext⟩ := (Path.isNormal_iff path).mp h
  have hplace := ofText_fileAddress capital hhead
  refine ⟨hplace, htext, fun sources => ?_⟩
  rw [read, hplace]
  rfl

/-- A path from the other root, whose components have signs of all parts of an address. -/
def signedPath : List Char :=
  "//a b%41/é?#:;[\n]€😀/..".toList

/-- The path is read from its address, with a name of each length of encoded characters. -/
theorem fileAddress_names_signed_path
    : fileAddress true signedPath =
        "file:////a%20b%2541/%C3%A9%3F%23%3A%3B%5B%0A%5D%E2%82%AC%F0%9F%98%80/..".toList
      ∧ ofText (fileAddress true signedPath) =
          .ok (.file ⟨.doubleRoot, ["a b%41", "é?#:;[\n]€😀", ".."]⟩)
      ∧ ∀ sources, read sources (fileAddress true signedPath) =
          readPath sources.files ⟨.doubleRoot, ["a b%41", "é?#:;[\n]€😀", ".."]⟩ := by
  have hnormal : Path.IsNormal signedPath := by
    refine ⟨['/', '/'], ["a b%41".toList, "é?#:;[\n]€😀".toList, "..".toList], Or.inr rfl, ?_, ?_⟩
    · unfold Path.IsProper
      decide +kernel
    · decide +kernel
  have hpath : Path.ofText signedPath = ⟨.doubleRoot, ["a b%41", "é?#:;[\n]€😀", ".."]⟩ := by
    decide +kernel
  obtain ⟨hplace, -, hread⟩ := fileAddress_names_file true hnormal
  rw [hpath] at hplace hread
  exact ⟨by decide +kernel, hplace, hread⟩

end SqlShell.Locator
