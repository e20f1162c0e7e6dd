/-!
# Upper-case letters and simple lower-case mapping

Property names written in camel case are turned into kebab case by lowering each upper-case
letter. Both notions come from the Unicode character database (version 15.0): a letter is
upper case when its general category is `Lu`, and its lower-case form is its *simple*
lower-case mapping, one code point to one code point (so `İ` lowers to `i` and a title-case
letter such as `ǅ` is not upper case).

## Main definitions

* `isUpper` : membership in the `Lu` table.
* `toLower` : the simple lower-case mapping, the identity off the table.
* `lowerText` : `toLower` on every character of a text.
-/

namespace UtilityStyles.Text

/-- Code point ranges of the upper-case letters (general category Lu, Unicode 15.0),
as `(first, last, stride)`: a range holds `first`, `first + stride`, … up to `last`. -/
def upperRanges : List (Nat × Nat × Nat) := [
  (0x0041, 0x005A, 1), (0x00C0, 0x00D6, 1), (0x00D8, 0x00DE, 1), (0x0100, 0x0136, 2),
  (0x0139, 0x0147, 2), (0x014A, 0x0178, 2), (0x0179, 0x017D, 2), (0x0181, 0x0182, 1),
  (0x0184, 0x0186, 2), (0x0187, 0x0189, 2), (0x018A, 0x018B, 1), (0x018E, 0x0191, 1),
  (0x0193, 0x0194, 1), (0x0196, 0x0198, 1), (0x019C, 0x019D, 1), (0x019F, 0x01A0, 1),
  (0x01A2, 0x01A6, 2), (0x01A7, 0x01A9, 2), (0x01AC, 0x01AE, 2), (0x01AF, 0x01B1, 2),
  (0x01B2, 0x01B3, 1), (0x01B5, 0x01B7, 2), (0x01B8, 0x01B8, 1), (0x01BC, 0x01BC, 1),
  (0x01C4, 0x01C4, 1), (0x01C7, 0x01C7, 1), (0x01CA, 0x01CA, 1), (0x01CD, 0x01DB, 2),
  (0x01DE, 0x01EE, 2), (0x01F1, 0x01F1, 1), (0x01F4, 0x01F6, 2), (0x01F7, 0x01F8, 1),
  (0x01FA, 0x0232, 2), (0x023A, 0x023B, 1), (0x023D, 0x023E, 1), (0x0241, 0x0243, 2),
  (0x0244, 0x0246, 1), (0x0248, 0x024E, 2), (0x0370, 0x0372, 2), (0x0376, 0x0376, 1),
  (0x037F, 0x037F, 1), (0x0386, 0x0388, 2), (0x0389, 0x038A, 1), (0x038C, 0x038E, 2),
  (0x038F, 0x0391, 2), (0x0392, 0x03A1, 1), (0x03A3, 0x03AB, 1), (0x03CF, 0x03CF, 1),
  (0x03D2, 0x03D4, 1), (0x03D8, 0x03EE, 2), (0x03F4, 0x03F4, 1), (0x03F7, 0x03F9, 2),
  (0x03FA, 0x03FA, 1), (0x03FD, 0x042F, 1), (0x0460, 0x0480, 2), (0x048A, 0x04C0, 2),
  (0x04C1, 0x04CD, 2), (0x04D0, 0x052E, 2), (0x0531, 0x0556, 1), (0x10A0, 0x10C5, 1),
  (0x10C7, 0x10C7, 1), (0x10CD, 0x10CD, 1), (0x13A0, 0x13F5, 1), (0x1C90, 0x1CBA, 1),
  (0x1CBD, 0x1CBF, 1), (0x1E00, 0x1E94, 2), (0x1E9E, 0x1EFE, 2), (0x1F08, 0x1F0F, 1),
  (0x1F18, 0x1F1D, 1), (0x1F28, 0x1F2F, 1), (0x1F38, 0x1F3F, 1), (0x1F48, 0x1F4D, 1),
  (0x1F59, 0x1F5F, 2), (0x1F68, 0x1F6F, 1), (0x1FB8, 0x1FBB, 1), (0x1FC8, 0x1FCB, 1),
  (0x1FD8, 0x1FDB, 1), (0x1FE8, 0x1FEC, 1), (0x1FF8, 0x1FFB, 1), (0x2102, 0x2102, 1),
  (0x2107, 0x2107, 1), (0x210B, 0x210D, 1), (0x2110, 0x2112, 1), (0x2115, 0x2115, 1),
  (0x2119, 0x211D, 1), (0x2124, 0x212A, 2), (0x212B, 0x212D, 1), (0x2130, 0x2133, 1),
  (0x213E, 0x213F, 1), (0x2145, 0x2145, 1), (0x2183, 0x2183, 1), (0x2C00, 0x2C2F, 1),
  (0x2C60, 0x2C62, 2), (0x2C63, 0x2C64, 1), (0x2C67, 0x2C6D, 2), (0x2C6E, 0x2C70, 1),
  (0x2C72, 0x2C72, 1), (0x2C75, 0x2C75, 1), (0x2C7E, 0x2C80, 1), (0x2C82, 0x2CE2, 2),
  (0x2CEB, 0x2CED, 2), (0x2CF2, 0x2CF2, 1), (0xA640, 0xA66C, 2), (0xA680, 0xA69A, 2),
  (0xA722, 0xA72E, 2), (0xA732, 0xA76E, 2), (0xA779, 0xA77D, 2), (0xA77E, 0xA786, 2),
  (0xA78B, 0xA78D, 2), (0xA790, 0xA792, 2), (0xA796, 0xA7AA, 2), (0xA7AB, 0xA7AE, 1),
  (0xA7B0, 0xA7B4, 1), (0xA7B6, 0xA7C4, 2), (0xA7C5, 0xA7C7, 1), (0xA7C9, 0xA7C9, 1),
  (0xA7D0, 0xA7D0, 1), (0xA7D6, 0xA7D8, 2), (0xA7F5, 0xA7F5, 1), (0xFF21, 0xFF3A, 1),
  (0x10400, 0x10427, 1), (0x104B0, 0x104D3, 1), (0x10570, 0x1057A, 1), (0x1057C, 0x1058A, 1),
  (0x1058C, 0x10592, 1), (0x10594, 0x10595, 1), (0x10C80, 0x10CB2, 1), (0x118A0, 0x118BF, 1),
  (0x16E40, 0x16E5F, 1), (0x1D400, 0x1D419, 1), (0x1D434, 0x1D44D, 1), (0x1D468, 0x1D481, 1),
  (0x1D49C, 0x1D49E, 2), (0x1D49F, 0x1D49F, 1), (0x1D4A2, 0x1D4A2, 1), (0x1D4A5, 0x1D4A6, 1),
  (0x1D4A9, 0x1D4AC, 1), (0x1D4AE, 0x1D4B5, 1), (0x1D4D0, 0x1D4E9, 1), (0x1D504, 0x1D505, 1),
  (0x1D507, 0x1D50A, 1), (0x1D50D, 0x1D514, 1), (0x1D516, 0x1D51C, 1), (0x1D538, 0x1D539, 1),
  (0x1D53B, 0x1D53E, 1), (0x1D540, 0x1D544, 1), (0x1D546, 0x1D546, 1), (0x1D54A, 0x1D550, 1),
  (0x1D56C, 0x1D585, 1), (0x1D5A0, 0x1D5B9, 1), (0x1D5D4, 0x1D5ED, 1), (0x1D608, 0x1D621, 1),
  (0x1D63C, 0x1D655, 1), (0x1D670, 0x1D689, 1), (0x1D6A8, 0x1D6C0, 1), (0x1D6E2, 0x1D6FA, 1),
  (0x1D71C, 0x1D734, 1), (0x1D756, 0x1D76E, 1), (0x1D790, 0x1D7A8, 1), (0x1D7CA, 0x1D7CA, 1),
  (0x1E900, 0x1E921, 1)]

/-- Simple lower-case mappings (Unicode 15.0) as `(first, last, shift)`. A shift of
`some d` adds `d` to every code point of the range; `none` marks a range of alternating
upper/lower pairs, where the code points at even offsets map to the next one. -/
def lowerRanges : List (Nat × Nat × Option Int) := [
  (0x0041, 0x005A, some (32)), (0x00C0, 0x00D6, some (32)), (0x00D8, 0x00DE, some (32)),
  (0x0100, 0x012E, none), (0x0130, 0x0130, some (-199)), (0x0132, 0x0136, none),
  (0x0139, 0x0147, none), (0x014A, 0x0176, none), (0x0178, 0x0178, some (-121)),
  (0x0179, 0x017D, none), (0x0181, 0x0181, some (210)), (0x0182, 0x0184, none),
  (0x0186, 0x0186, some (206)), (0x0187, 0x0187, some (1)), (0x0189, 0x018A, some (205)),
  (0x018B, 0x018B, some (1)), (0x018E, 0x018E, some (79)), (0x018F, 0x018F, some (202)),
  (0x0190, 0x0190, some (203)), (0x0191, 0x0191, some (1)), (0x0193, 0x0193, some (205)),
  (0x0194, 0x0194, some (207)), (0x0196, 0x0196, some (211)), (0x0197, 0x0197, some (209)),
  (0x0198, 0x0198, some (1)), (0x019C, 0x019C, some (211)), (0x019D, 0x019D, some (213)),
  (0x019F, 0x019F, some (214)), (0x01A0, 0x01A4, none), (0x01A6, 0x01A6, some (218)),
  (0x01A7, 0x01A7, some (1)), (0x01A9, 0x01A9, some (218)), (0x01AC, 0x01AC, some (1)),
  (0x01AE, 0x01AE, some (218)), (0x01AF, 0x01AF, some (1)), (0x01B1, 0x01B2, some (217)),
  (0x01B3, 0x01B5, none), (0x01B7, 0x01B7, some (219)), (0x01B8, 0x01B8, some (1)),
  (0x01BC, 0x01BC, some (1)), (0x01C4, 0x01C4, some (2)), (0x01C5, 0x01C5, some (1)),
  (0x01C7, 0x01C7, some (2)), (0x01C8, 0x01C8, some (1)), (0x01CA, 0x01CA, some (2)),
  (0x01CB, 0x01DB, none), (0x01DE, 0x01EE, none), (0x01F1, 0x01F1, some (2)),
  (0x01F2, 0x01F4, none), (0x01F6, 0x01F6, some (-97)), (0x01F7, 0x01F7, some (-56)),
  (0x01F8, 0x021E, none), (0x0220, 0x0220, some (-130)), (0x0222, 0x0232, none),
  (0x023A, 0x023A, some (10795)), (0x023B, 0x023B, some (1)), (0x023D, 0x023D, some (-163)),
  (0x023E, 0x023E, some (10792)), (0x0241, 0x0241, some (1)), (0x0243, 0x0243, some (-195)),
  (0x0244, 0x0244, some (69)), (0x0245, 0x0245, some (71)), (0x0246, 0x024E, none),
  (0x0370, 0x0372, none), (0x0376, 0x0376, some (1)), (0x037F, 0x037F, some (116)),
  (0x0386, 0x0386, some (38)), (0x0388, 0x038A, some (37)), (0x038C, 0x038C, some (64)),
  (0x038E, 0x038F, some (63)), (0x0391, 0x03A1, some (32)), (0x03A3, 0x03AB, some (32)),
  (0x03CF, 0x03CF, some (8)), (0x03D8, 0x03EE, none), (0x03F4, 0x03F4, some (-60)),
  (0x03F7, 0x03F7, some (1)), (0x03F9, 0x03F9, some (-7)), (0x03FA, 0x03FA, some (1)),
  (0x03FD, 0x03FF, some (-130)), (0x0400, 0x040F, some (80)), (0x0410, 0x042F, some (32)),
  (0x0460, 0x0480, none), (0x048A, 0x04BE, none), (0x04C0, 0x04C0, some (15)),
  (0x04C1, 0x04CD, none), (0x04D0, 0x052E, none), (0x0531, 0x0556, some (48)),
  (0x10A0, 0x10C5, some (7264)), (0x10C7, 0x10C7, some (7264)), (0x10CD, 0x10CD, some (7264)),
  (0x13A0, 0x13EF, some (38864)), (0x13F0, 0x13F5, some (8)), (0x1C90, 0x1CBA, some (-3008)),
  (0x1CBD, 0x1CBF, some (-3008)), (0x1E00, 0x1E94, none), (0x1E9E, 0x1E9E, some (-7615)),
  (0x1EA0, 0x1EFE, none), (0x1F08, 0x1F0F, some (-8)), (0x1F18, 0x1F1D, some (-8)),
  (0x1F28, 0x1F2F, some (-8)), (0x1F38, 0x1F3F, some (-8)), (0x1F48, 0x1F4D, some (-8)),
  (0x1F59, 0x1F59, some (-8)), (0x1F5B, 0x1F5B, some (-8)), (0x1F5D, 0x1F5D, some (-8)),
  (0x1F5F, 0x1F5F, some (-8)), (0x1F68, 0x1F6F, some (-8)), (0x1F88, 0x1F8F, some (-8)),
  (0x1F98, 0x1F9F, some (-8)), (0x1FA8, 0x1FAF, some (-8)), (0x1FB8, 0x1FB9, some (-8)),
  (0x1FBA, 0x1FBB, some (-74)), (0x1FBC, 0x1FBC, some (-9)), (0x1FC8, 0x1FCB, some (-86)),
  (0x1FCC, 0x1FCC, some (-9)), (0x1FD8, 0x1FD9, some (-8)), (0x1FDA, 0x1FDB, some (-100)),
  (0x1FE8, 0x1FE9, some (-8)), (0x1FEA, 0x1FEB, some (-112)), (0x1FEC, 0x1FEC, some (-7)),
  (0x1FF8, 0x1FF9, some (-128)), (0x1FFA, 0x1FFB, some (-126)), (0x1FFC, 0x1FFC, some (-9)),
  (0x2126, 0x2126, some (-7517)), (0x212A, 0x212A, some (-8383)), (0x212B, 0x212B, some (-8262)),
  (0x2132, 0x2132, some (28)), (0x2160, 0x216F, some (16)), (0x2183, 0x2183, some (1)),
  (0x24B6, 0x24CF, some (26)), (0x2C00, 0x2C2F, some (48)), (0x2C60, 0x2C60, some (1)),
  (0x2C62, 0x2C62, some (-10743)), (0x2C63, 0x2C63, some (-3814)), (0x2C64, 0x2C64, some (-10727)),
  (0x2C67, 0x2C6B, none), (0x2C6D, 0x2C6D, some (-10780)), (0x2C6E, 0x2C6E, some (-10749)),
  (0x2C6F, 0x2C6F, some (-10783)), (0x2C70, 0x2C70, some (-10782)), (0x2C72, 0x2C72, some (1)),
  (0x2C75, 0x2C75, some (1)), (0x2C7E, 0x2C7F, some (-10815)), (0x2C80, 0x2CE2, none),
  (0x2CEB, 0x2CED, none), (0x2CF2, 0x2CF2, some (1)), (0xA640, 0xA66C, none),
  (0xA680, 0xA69A, none), (0xA722, 0xA72E, none), (0xA732, 0xA76E, none),
  (0xA779, 0xA77B, none), (0xA77D, 0xA77D, some (-35332)), (0xA77E, 0xA786, none),
  (0xA78B, 0xA78B, some (1)), (0xA78D, 0xA78D, some (-42280)), (0xA790, 0xA792, none),
  (0xA796, 0xA7A8, none), (0xA7AA, 0xA7AA, some (-42308)), (0xA7AB, 0xA7AB, some (-42319)),
  (0xA7AC, 0xA7AC, some (-42315)), (0xA7AD, 0xA7AD, some (-42305)), (0xA7AE, 0xA7AE, some (-42308)),
  (0xA7B0, 0xA7B0, some (-42258)), (0xA7B1, 0xA7B1, some (-42282)), (0xA7B2, 0xA7B2, some (-42261)),
  (0xA7B3, 0xA7B3, some (928)), (0xA7B4, 0xA7C2, none), (0xA7C4, 0xA7C4, some (-48)),
  (0xA7C5, 0xA7C5, some (-42307)), (0xA7C6, 0xA7C6, some (-35384)), (0xA7C7, 0xA7C9, none),
  (0xA7D0, 0xA7D0, some (1)), (0xA7D6, 0xA7D8, none), (0xA7F5, 0xA7F5, some (1)),
  (0xFF21, 0xFF3A, some (32)), (0x10400, 0x10427, some (40)), (0x104B0, 0x104D3, some (40)),
  (0x10570, 0x1057A, some (39)), (0x1057C, 0x1058A, some (39)), (0x1058C, 0x10592, some (39)),
  (0x10594, 0x10595, some (39)), (0x10C80, 0x10CB2, some (64)), (0x118A0, 0x118BF, some (32)),
  (0x16E40, 0x16E5F, some (32)), (0x1E900, 0x1E921, some (34))]

/-- Whether code point `n` lies in the range `(first, last, stride)`. -/
def inStrideRange (n : Nat) (r : Nat × Nat × Nat) : Bool :=
  r.1 ≤ n && n ≤ r.2.1 && (n - r.1) % r.2.2 == 0

/-- Upper-case letters: general category `Lu`. -/
def isUpper (c : Char) : Bool :=
  upperRanges.any (inStrideRange c.toNat)

/-- The image of code point `n` under one lower-case range, when the range holds it. -/
def lowerInRange (n : Nat) : Nat × Nat × Option Int → Option Nat
  | (lo, hi, shift) =>
    if lo ≤ n ∧ n ≤ hi then
      match shift with
      | some d => some (Int.toNat (n + d))
      | none => some (if (n - lo) % 2 == 0 then n + 1 else n)
    else none

/-- The simple lower-case mapping of a character; characters without one map to
themselves. -/
def toLower (c : Char) : Char :=
  match lowerRanges.findSome? (lowerInRange c.toNat) with
  | some n => Char.ofNat n
  | none => c

/-- A text with every character replaced by its simple lower-case mapping. -/
def lowerText (s : String) : String :=
  String.ofList (s.toList.map toLower)

/-- Whether two texts are equal when case is ignored: character by character, by the simple
lower-case mapping. -/
def sameFold (a b : String) : Bool :=
  a.length == b.length && (a.toList.zip b.toList).all fun (x, y) => x == y || toLower x == toLower y

end UtilityStyles.Text
