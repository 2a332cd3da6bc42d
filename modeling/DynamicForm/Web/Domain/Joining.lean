import DynamicForm.Text.Composition
import DynamicForm.Web.Domain.Kind

/-!
# Joining letters

Letters of some scripts are joined in writing. Two invisible characters of a label change that, and
each is admitted only where it has an effect: either one behind a mark that silences a vowel, and
the one that parts letters also between two letters that would be joined.

- `Domain.mayPart` and `Domain.mayJoin` say where the two may stand.
- The tables of scripts are those that other characters of a label depend on.
-/

namespace DynamicForm.Domain

open Text (Ranges)

/-- Letters that are joined on both sides. -/
def joinedBothRanges : Ranges := [
  (1568, 1568), (1574, 1574), (1576, 1576), (1578, 1582), (1587, 1599), (1601, 1607),
  (1609, 1610), (1646, 1647), (1657, 1671), (1690, 1727), (1729, 1730), (1740, 1740),
  (1742, 1742), (1744, 1745), (1786, 1788), (1791, 1791), (1810, 1812), (1818, 1821),
  (1823, 1831), (1833, 1833), (1835, 1835), (1837, 1838), (1870, 1880), (1884, 1898),
  (1901, 1904), (1906, 1906), (1909, 1911), (1914, 1919), (1994, 2026), (2113, 2117),
  (2120, 2120), (2122, 2131), (2133, 2133), (2144, 2144), (2146, 2149), (2152, 2152),
  (2182, 2182), (2185, 2189), (2208, 2217), (2223, 2224), (2227, 2232), (2234, 2248),
  (6176, 6264), (6279, 6312), (6314, 6314), (43072, 43121), (68288, 68292), (68307, 68310),
  (68312, 68316), (68318, 68320), (68480, 68480), (68482, 68482), (68486, 68488), (68490, 68491),
  (68493, 68493), (68496, 68496), (68865, 68897), (68899, 68899), (69424, 69426), (69428, 69444),
  (69488, 69491), (69494, 69505), (69552, 69552), (69554, 69555), (69560, 69560), (69563, 69564),
  (69566, 69567), (69569, 69569), (69572, 69572), (125218, 125251)]

/-- Letters that are joined only to what stands before them. -/
def joinedBeforeRanges : Ranges := [
  (1570, 1573), (1575, 1575), (1577, 1577), (1583, 1586), (1608, 1608), (1649, 1651),
  (1672, 1689), (1728, 1728), (1731, 1739), (1741, 1741), (1743, 1743), (1746, 1747),
  (1749, 1749), (1774, 1775), (1808, 1808), (1813, 1817), (1822, 1822), (1832, 1832),
  (1834, 1834), (1836, 1836), (1839, 1839), (1869, 1869), (1881, 1883), (1899, 1900),
  (1905, 1905), (1907, 1908), (1912, 1913), (2112, 2112), (2118, 2119), (2121, 2121),
  (2132, 2132), (2134, 2136), (2151, 2151), (2153, 2154), (2160, 2178), (2190, 2190),
  (2218, 2220), (2222, 2222), (2225, 2226), (2233, 2233), (68293, 68293), (68295, 68295),
  (68297, 68298), (68302, 68306), (68317, 68317), (68321, 68321), (68324, 68324), (68481, 68481),
  (68483, 68485), (68489, 68489), (68492, 68492), (68494, 68495), (68497, 68497), (68898, 68898),
  (69427, 69427), (69492, 69493), (69556, 69558), (69561, 69562), (69565, 69565), (69570, 69571)]

/-- Letters that are joined only to what follows them. -/
def joinedAfterRanges : Ranges := [(43122, 43122), (68301, 68301), (68311, 68311), (68864, 68864)]

/-- Characters besides the marks across which letters are joined. -/
def transparentRanges : Ranges := [
  (3263, 3263), (3270, 3270), (72199, 72200), (72767, 72767), (125259, 125259)]

/-- Letters of Greek. -/
def greekRanges : Ranges := [
  (881, 881), (883, 883), (885, 885), (887, 887), (891, 893), (912, 912), (940, 974), (983, 983),
  (985, 985), (987, 987), (989, 989), (991, 991), (993, 993), (1011, 1011), (1016, 1016),
  (1019, 1020), (7462, 7466), (7936, 7943), (7952, 7957), (7968, 7975), (7984, 7991),
  (8000, 8005), (8016, 8023), (8032, 8039), (8048, 8048), (8050, 8050), (8052, 8052),
  (8054, 8054), (8056, 8056), (8058, 8058), (8060, 8060), (8112, 8113), (8118, 8118),
  (8134, 8134), (8144, 8146), (8150, 8151), (8160, 8162), (8164, 8167), (8182, 8182),
  (43877, 43877)]

/-- Letters and points of Hebrew. -/
def hebrewRanges : Ranges := [
  (1425, 1469), (1471, 1471), (1473, 1474), (1476, 1477), (1479, 1479), (1488, 1514),
  (1519, 1524), (64286, 64286)]

/-- Letters of Hiragana, Katakana and Han. -/
def japaneseRanges : Ranges := [
  (12293, 12293), (12295, 12295), (12353, 12438), (12445, 12446), (12449, 12538), (12541, 12542),
  (12784, 12799), (13312, 19903), (19968, 40959), (64014, 64015), (64017, 64017), (64019, 64020),
  (64031, 64031), (64033, 64033), (64035, 64036), (64039, 64041), (94179, 94179), (94192, 94193),
  (110576, 110579), (110581, 110587), (110589, 110590), (110592, 110882), (110928, 110930),
  (110948, 110951), (131072, 173791), (173824, 177976), (177984, 178205), (178208, 183969),
  (183984, 191456), (196608, 201546)]

/-- Whether letters are joined across a character. One mark is written beside its letter and parts
it from the next. -/
def isTransparent (n : Nat) : Bool :=
  (kind? n == some .mark && n != 0x1171e) || transparentRanges.contains n

/-- Whether the first character that is not transparent passes a test. -/
def meets (test : Nat → Bool) (ns : List Nat) : Bool :=
  match ns.dropWhile isTransparent with
  | n :: _ => test n
  | [] => false

/-- Whether a character is joined to what follows it. -/
def joinsAfter (n : Nat) : Bool := joinedBothRanges.contains n || joinedAfterRanges.contains n

/-- Whether a character is joined to what stands before it. -/
def joinsBefore (n : Nat) : Bool := joinedBothRanges.contains n || joinedBeforeRanges.contains n

/-- The class of the marks that silence a vowel. -/
def silencingClass : Nat := 9

/-- Whether the nearest character silences a vowel. -/
def isSilenced : List Nat → Bool
  | n :: _ => Text.markClass n == silencingClass
  | [] => false

/-- Whether letters may be parted here, given what stands before, nearest first, and after. -/
def mayPart (before after : List Nat) : Bool :=
  isSilenced before || (meets joinsAfter before && meets joinsBefore after)

/-- Whether letters may be joined here. -/
def mayJoin (before : List Nat) : Bool := isSilenced before

end DynamicForm.Domain
