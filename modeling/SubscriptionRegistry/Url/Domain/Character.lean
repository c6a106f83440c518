/-
# Characters in domains

A character outside ASCII stands for itself, or for others that are plainer, or for nothing; or
it may not stand in a domain at all.

* `isIgnored`, `isVariant`, `isDisallowed`: what does not stand for itself.
-/
import SubscriptionRegistry.Text.Unassigned

namespace SubscriptionRegistry
namespace Url
namespace Domain

/-- Characters that vanish: soft hyphens, fillers, joiners of words, variation selectors. -/
def ignoredRanges : Text.Ranges := #[
    (0xAD, 0xAD), (0x34F, 0x34F), (0x115F, 0x1160), (0x17B4, 0x17B5), (0x180B, 0x180F),
    (0x200B, 0x200B), (0x2060, 0x2064), (0x206A, 0x206F), (0x3164, 0x3164), (0xFE00, 0xFE0F),
    (0xFEFF, 0xFEFF), (0xFFA0, 0xFFA0), (0x1BCA0, 0x1BCA3), (0x1D173, 0x1D17A), (0xE0100, 0xE01EF)]

/-- Controls, marks of direction, dots that look like several, and private code points, in
ranges that may hold unassigned code points as well. -/
def disallowedRanges : Text.Ranges := #[
    (0x80, 0x9F), (0x600, 0x605), (0x61C, 0x61C), (0x6DD, 0x6DD), (0x70F, 0x70F), (0x890, 0x891),
    (0x8E2, 0x8E2), (0x1680, 0x1680), (0x200E, 0x200F), (0x2024, 0x2026), (0x2028, 0x202E),
    (0x2066, 0x2069), (0x2488, 0x249B), (0x2FF0, 0x2FFF), (0x31EF, 0x31EF), (0x33C2, 0x33C2),
    (0x33C7, 0x33C7), (0x33D8, 0x33D8), (0xE000, 0xF8FF), (0xFE12, 0xFE12), (0xFE19, 0xFE19),
    (0xFE30, 0xFE30), (0xFE52, 0xFE52), (0xFFF9, 0xFFFD), (0x110BD, 0x110BD), (0x110CD, 0x110CD),
    (0x13430, 0x1343F), (0x1F100, 0x1F100), (0xE0001, 0xE007F), (0xF0000, 0x10FFFD)]

/-- Characters that stand for plainer ones: capitals, ligatures, presentation forms.  With the
first and last code point of a range comes the step from one to the next. -/
def variantRanges : Array (Nat × Nat × Nat) := #[
    (0xA0, 0xA0, 0x1), (0xA8, 0xAA, 0x2), (0xAF, 0xAF, 0x1), (0xB2, 0xB5, 0x1), (0xB8, 0xBA, 0x1),
    (0xBC, 0xBE, 0x1), (0xC0, 0xD6, 0x1), (0xD8, 0xDE, 0x1), (0x100, 0x132, 0x2),
    (0x133, 0x134, 0x1), (0x136, 0x136, 0x1), (0x139, 0x13F, 0x2), (0x140, 0x141, 0x1),
    (0x143, 0x149, 0x2), (0x14A, 0x178, 0x2), (0x179, 0x181, 0x2), (0x182, 0x186, 0x2),
    (0x187, 0x189, 0x2), (0x18A, 0x18B, 0x1), (0x18E, 0x191, 0x1), (0x193, 0x194, 0x1),
    (0x196, 0x198, 0x1), (0x19C, 0x19D, 0x1), (0x19F, 0x1A0, 0x1), (0x1A2, 0x1A6, 0x2),
    (0x1A7, 0x1A9, 0x2), (0x1AC, 0x1AE, 0x2), (0x1AF, 0x1B1, 0x2), (0x1B2, 0x1B3, 0x1),
    (0x1B5, 0x1B7, 0x2), (0x1B8, 0x1B8, 0x1), (0x1BC, 0x1BC, 0x1), (0x1C4, 0x1CD, 0x1),
    (0x1CF, 0x1DB, 0x2), (0x1DE, 0x1EE, 0x2), (0x1F1, 0x1F4, 0x1), (0x1F6, 0x1F8, 0x1),
    (0x1FA, 0x232, 0x2), (0x23A, 0x23B, 0x1), (0x23D, 0x23E, 0x1), (0x241, 0x243, 0x2),
    (0x244, 0x246, 0x1), (0x248, 0x24E, 0x2), (0x2B0, 0x2B8, 0x1), (0x2D8, 0x2DD, 0x1),
    (0x2E0, 0x2E4, 0x1), (0x340, 0x341, 0x1), (0x343, 0x345, 0x1), (0x370, 0x376, 0x2),
    (0x37A, 0x37A, 0x1), (0x37E, 0x37F, 0x1), (0x384, 0x38A, 0x1), (0x38C, 0x38E, 0x2),
    (0x38F, 0x391, 0x2), (0x392, 0x3A1, 0x1), (0x3A3, 0x3AB, 0x1), (0x3CF, 0x3D6, 0x1),
    (0x3D8, 0x3F0, 0x2), (0x3F1, 0x3F2, 0x1), (0x3F4, 0x3F5, 0x1), (0x3F7, 0x3F9, 0x2),
    (0x3FA, 0x3FA, 0x1), (0x3FD, 0x42F, 0x1), (0x460, 0x480, 0x2), (0x48A, 0x4C0, 0x2),
    (0x4C1, 0x4CD, 0x2), (0x4D0, 0x52E, 0x2), (0x531, 0x556, 0x1), (0x587, 0x587, 0x1),
    (0x675, 0x678, 0x1), (0x958, 0x95F, 0x1), (0x9DC, 0x9DD, 0x1), (0x9DF, 0x9DF, 0x1),
    (0xA33, 0xA33, 0x1), (0xA36, 0xA36, 0x1), (0xA59, 0xA5B, 0x1), (0xA5E, 0xA5E, 0x1),
    (0xB5C, 0xB5D, 0x1), (0xE33, 0xE33, 0x1), (0xEB3, 0xEB3, 0x1), (0xEDC, 0xEDD, 0x1),
    (0xF0C, 0xF0C, 0x1), (0xF43, 0xF43, 0x1), (0xF4D, 0xF4D, 0x1), (0xF52, 0xF52, 0x1),
    (0xF57, 0xF57, 0x1), (0xF5C, 0xF5C, 0x1), (0xF69, 0xF69, 0x1), (0xF73, 0xF75, 0x2),
    (0xF76, 0xF79, 0x1), (0xF81, 0xF81, 0x1), (0xF93, 0xF93, 0x1), (0xF9D, 0xF9D, 0x1),
    (0xFA2, 0xFA2, 0x1), (0xFA7, 0xFA7, 0x1), (0xFAC, 0xFAC, 0x1), (0xFB9, 0xFB9, 0x1),
    (0x10A0, 0x10C5, 0x1), (0x10C7, 0x10C7, 0x1), (0x10CD, 0x10CD, 0x1), (0x10FC, 0x10FC, 0x1),
    (0x13F8, 0x13FD, 0x1), (0x1C80, 0x1C89, 0x1), (0x1C90, 0x1CBA, 0x1), (0x1CBD, 0x1CBF, 0x1),
    (0x1D2C, 0x1D2E, 0x1), (0x1D30, 0x1D3A, 0x1), (0x1D3C, 0x1D4D, 0x1), (0x1D4F, 0x1D6A, 0x1),
    (0x1D78, 0x1D78, 0x1), (0x1D9B, 0x1DBF, 0x1), (0x1E00, 0x1E94, 0x2), (0x1E9A, 0x1E9B, 0x1),
    (0x1E9E, 0x1EFE, 0x2), (0x1F08, 0x1F0F, 0x1), (0x1F18, 0x1F1D, 0x1), (0x1F28, 0x1F2F, 0x1),
    (0x1F38, 0x1F3F, 0x1), (0x1F48, 0x1F4D, 0x1), (0x1F59, 0x1F5F, 0x2), (0x1F68, 0x1F6F, 0x1),
    (0x1F71, 0x1F7D, 0x2), (0x1F80, 0x1FAF, 0x1), (0x1FB2, 0x1FB4, 0x1), (0x1FB7, 0x1FC4, 0x1),
    (0x1FC7, 0x1FCF, 0x1), (0x1FD3, 0x1FD3, 0x1), (0x1FD8, 0x1FDB, 0x1), (0x1FDD, 0x1FDF, 0x1),
    (0x1FE3, 0x1FE3, 0x1), (0x1FE8, 0x1FEF, 0x1), (0x1FF2, 0x1FF4, 0x1), (0x1FF7, 0x1FFE, 0x1),
    (0x2000, 0x200A, 0x1), (0x2011, 0x2011, 0x1), (0x2017, 0x2017, 0x1), (0x202F, 0x202F, 0x1),
    (0x2033, 0x2034, 0x1), (0x2036, 0x2037, 0x1), (0x203C, 0x203E, 0x2), (0x2047, 0x2049, 0x1),
    (0x2057, 0x2057, 0x1), (0x205F, 0x205F, 0x1), (0x2070, 0x2071, 0x1), (0x2074, 0x208E, 0x1),
    (0x2090, 0x209C, 0x1), (0x20A8, 0x20A8, 0x1), (0x2100, 0x2103, 0x1), (0x2105, 0x2107, 0x1),
    (0x2109, 0x2113, 0x1), (0x2115, 0x2116, 0x1), (0x2119, 0x211D, 0x1), (0x2120, 0x2122, 0x1),
    (0x2124, 0x212A, 0x2), (0x212B, 0x212D, 0x1), (0x212F, 0x2139, 0x1), (0x213B, 0x2140, 0x1),
    (0x2145, 0x2149, 0x1), (0x2150, 0x217F, 0x1), (0x2183, 0x2183, 0x1), (0x2189, 0x2189, 0x1),
    (0x222C, 0x222D, 0x1), (0x222F, 0x2230, 0x1), (0x2329, 0x232A, 0x1), (0x2460, 0x2487, 0x1),
    (0x249C, 0x24EA, 0x1), (0x2A0C, 0x2A0C, 0x1), (0x2A74, 0x2A76, 0x1), (0x2ADC, 0x2ADC, 0x1),
    (0x2C00, 0x2C2F, 0x1), (0x2C60, 0x2C62, 0x2), (0x2C63, 0x2C64, 0x1), (0x2C67, 0x2C6D, 0x2),
    (0x2C6E, 0x2C70, 0x1), (0x2C72, 0x2C72, 0x1), (0x2C75, 0x2C75, 0x1), (0x2C7C, 0x2C80, 0x1),
    (0x2C82, 0x2CE2, 0x2), (0x2CEB, 0x2CED, 0x2), (0x2CF2, 0x2CF2, 0x1), (0x2D6F, 0x2D6F, 0x1),
    (0x2E9F, 0x2E9F, 0x1), (0x2EF3, 0x2EF3, 0x1), (0x2F00, 0x2FD5, 0x1), (0x3000, 0x3002, 0x2),
    (0x3036, 0x3038, 0x2), (0x3039, 0x303A, 0x1), (0x309B, 0x309C, 0x1), (0x309F, 0x309F, 0x1),
    (0x30FF, 0x30FF, 0x1), (0x3131, 0x3163, 0x1), (0x3165, 0x318E, 0x1), (0x3192, 0x319F, 0x1),
    (0x3200, 0x321E, 0x1), (0x3220, 0x3247, 0x1), (0x3250, 0x327E, 0x1), (0x3280, 0x33C1, 0x1),
    (0x33C3, 0x33C6, 0x1), (0x33C8, 0x33D7, 0x1), (0x33D9, 0x33FF, 0x1), (0xA640, 0xA66C, 0x2),
    (0xA680, 0xA69C, 0x2), (0xA69D, 0xA69D, 0x1), (0xA722, 0xA72E, 0x2), (0xA732, 0xA770, 0x2),
    (0xA779, 0xA77D, 0x2), (0xA77E, 0xA786, 0x2), (0xA78B, 0xA78D, 0x2), (0xA790, 0xA792, 0x2),
    (0xA796, 0xA7AA, 0x2), (0xA7AB, 0xA7AE, 0x1), (0xA7B0, 0xA7B4, 0x1), (0xA7B6, 0xA7C4, 0x2),
    (0xA7C5, 0xA7C7, 0x1), (0xA7C9, 0xA7CB, 0x2), (0xA7CC, 0xA7DC, 0x2), (0xA7F1, 0xA7F5, 0x1),
    (0xA7F8, 0xA7F9, 0x1), (0xAB5C, 0xAB5F, 0x1), (0xAB69, 0xAB69, 0x1), (0xAB70, 0xABBF, 0x1),
    (0xF900, 0xFA0D, 0x1), (0xFA10, 0xFA12, 0x2), (0xFA15, 0xFA1E, 0x1), (0xFA20, 0xFA22, 0x2),
    (0xFA25, 0xFA26, 0x1), (0xFA2A, 0xFA6D, 0x1), (0xFA70, 0xFAD9, 0x1), (0xFB00, 0xFB06, 0x1),
    (0xFB13, 0xFB17, 0x1), (0xFB1D, 0xFB1F, 0x2), (0xFB20, 0xFB36, 0x1), (0xFB38, 0xFB3C, 0x1),
    (0xFB3E, 0xFB40, 0x2), (0xFB41, 0xFB43, 0x2), (0xFB44, 0xFB46, 0x2), (0xFB47, 0xFBB1, 0x1),
    (0xFBD3, 0xFD3D, 0x1), (0xFD50, 0xFD8F, 0x1), (0xFD92, 0xFDC7, 0x1), (0xFDF0, 0xFDFC, 0x1),
    (0xFE10, 0xFE11, 0x1), (0xFE13, 0xFE18, 0x1), (0xFE31, 0xFE44, 0x1), (0xFE47, 0xFE51, 0x1),
    (0xFE54, 0xFE66, 0x1), (0xFE68, 0xFE6B, 0x1), (0xFE70, 0xFE72, 0x1), (0xFE74, 0xFE76, 0x2),
    (0xFE77, 0xFEFC, 0x1), (0xFF01, 0xFF9F, 0x1), (0xFFA1, 0xFFBE, 0x1), (0xFFC2, 0xFFC7, 0x1),
    (0xFFCA, 0xFFCF, 0x1), (0xFFD2, 0xFFD7, 0x1), (0xFFDA, 0xFFDC, 0x1), (0xFFE0, 0xFFE6, 0x1),
    (0xFFE8, 0xFFEE, 0x1), (0x10400, 0x10427, 0x1), (0x104B0, 0x104D3, 0x1),
    (0x10570, 0x1057A, 0x1), (0x1057C, 0x1058A, 0x1), (0x1058C, 0x10592, 0x1),
    (0x10594, 0x10595, 0x1), (0x10781, 0x10785, 0x1), (0x10787, 0x107B0, 0x1),
    (0x107B2, 0x107BA, 0x1), (0x10C80, 0x10CB2, 0x1), (0x10D50, 0x10D65, 0x1),
    (0x118A0, 0x118BF, 0x1), (0x16E40, 0x16E5F, 0x1), (0x16EA0, 0x16EB8, 0x1),
    (0x1CCD6, 0x1CCF9, 0x1), (0x1D15E, 0x1D164, 0x1), (0x1D1BB, 0x1D1C0, 0x1),
    (0x1D400, 0x1D454, 0x1), (0x1D456, 0x1D49C, 0x1), (0x1D49E, 0x1D49F, 0x1),
    (0x1D4A2, 0x1D4A2, 0x1), (0x1D4A5, 0x1D4A6, 0x1), (0x1D4A9, 0x1D4AC, 0x1),
    (0x1D4AE, 0x1D4B9, 0x1), (0x1D4BB, 0x1D4BD, 0x2), (0x1D4BE, 0x1D4C3, 0x1),
    (0x1D4C5, 0x1D505, 0x1), (0x1D507, 0x1D50A, 0x1), (0x1D50D, 0x1D514, 0x1),
    (0x1D516, 0x1D51C, 0x1), (0x1D51E, 0x1D539, 0x1), (0x1D53B, 0x1D53E, 0x1),
    (0x1D540, 0x1D544, 0x1), (0x1D546, 0x1D546, 0x1), (0x1D54A, 0x1D550, 0x1),
    (0x1D552, 0x1D6A5, 0x1), (0x1D6A8, 0x1D7CB, 0x1), (0x1D7CE, 0x1D7FF, 0x1),
    (0x1E030, 0x1E06D, 0x1), (0x1E900, 0x1E921, 0x1), (0x1EE00, 0x1EE03, 0x1),
    (0x1EE05, 0x1EE1F, 0x1), (0x1EE21, 0x1EE22, 0x1), (0x1EE24, 0x1EE24, 0x1),
    (0x1EE27, 0x1EE29, 0x2), (0x1EE2A, 0x1EE32, 0x1), (0x1EE34, 0x1EE37, 0x1),
    (0x1EE39, 0x1EE3B, 0x2), (0x1EE42, 0x1EE42, 0x1), (0x1EE47, 0x1EE4D, 0x2),
    (0x1EE4E, 0x1EE4F, 0x1), (0x1EE51, 0x1EE52, 0x1), (0x1EE54, 0x1EE54, 0x1),
    (0x1EE57, 0x1EE61, 0x2), (0x1EE62, 0x1EE64, 0x2), (0x1EE67, 0x1EE6A, 0x1),
    (0x1EE6C, 0x1EE72, 0x1), (0x1EE74, 0x1EE77, 0x1), (0x1EE79, 0x1EE7C, 0x1),
    (0x1EE7E, 0x1EE80, 0x2), (0x1EE81, 0x1EE89, 0x1), (0x1EE8B, 0x1EE9B, 0x1),
    (0x1EEA1, 0x1EEA3, 0x1), (0x1EEA5, 0x1EEA9, 0x1), (0x1EEAB, 0x1EEBB, 0x1),
    (0x1F101, 0x1F10A, 0x1), (0x1F110, 0x1F12E, 0x1), (0x1F130, 0x1F14F, 0x1),
    (0x1F16A, 0x1F16C, 0x1), (0x1F190, 0x1F190, 0x1), (0x1F200, 0x1F202, 0x1),
    (0x1F210, 0x1F23B, 0x1), (0x1F240, 0x1F248, 0x1), (0x1F250, 0x1F251, 0x1),
    (0x1FBF0, 0x1FBF9, 0x1), (0x2F800, 0x2FA1D, 0x1)]

/-- Whether a character does not count in a domain. -/
def isIgnored (c : Char) : Bool := ignoredRanges.holds c

/-- Whether a character outside ASCII stands for plainer ones. -/
def isVariant (c : Char) : Bool :=
  let n := c.toNat
  variantRanges.any fun r => r.1 ≤ n && n ≤ r.2.1 && (n - r.1) % r.2.2 = 0

/-- Whether a character outside ASCII may not stand in a domain. -/
def isDisallowed (c : Char) : Bool :=
  0x80 ≤ c.toNat && (disallowedRanges.holds c || Text.isUnassigned c)

/-- ASCII characters that no domain may hold. -/
def isForbidden (c : Char) : Bool :=
  c ≤ ' ' || c = '\x7f'
    || ['%', '#', '/', ':', '<', '>', '?', '@', '[', '\\', ']', '^', '|'].contains c

end Domain
end Url
end SubscriptionRegistry
