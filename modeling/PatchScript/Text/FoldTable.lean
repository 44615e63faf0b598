import PatchScript.Text.CaseTable

/-!
# Characters that differ only by case

All case variants of a character move to one that stands for them.  The table is
older than the case mappings: letters that were added since have no variants.
-/

namespace PatchScript
namespace Text

/-- Characters and the one that stands for all their case variants. -/
def foldShifts : List Shift :=
  Shift.ofRows
    "bTQ1Wd811vJBN1WO71Wb4O21bE3217821HN21bA11-dD1321611-hG211fU1221411fQ1111221fP2111311c7111fM111f
    N1111211fP111fR211fV111fT1111411fV111fX211fY1321611g21111211g23111211g21111221g12221411g3111141
    11811211112112111121121921J921J1121221411-cP111-bK1K21b411-dM2921O11lnV1111211-eJ111lnS3111211-
    fF111bX111bZ1521h311d8b72216111911d8711b2231b1411bS221bR3H1WI91WV111D118111-U111-P411-F111-M2C2
    1O11-bI111-bC311-bO111-bS2111211-71111331-dM3G1c8GW1Wc8H21b6R21bI11F1721FbC21cPb21bCddBb21htSb3
    11htS611htSwJ61-8ciO11-gqU111-gqT111-gqK121-gqI211-gqJ111-gqC111-gpO111blrN11117b71-dfKb931-dfK
    iZc321eB11-bM311-idJ2bC21cW81-8G61-8G81-8G81-8G61-8H42-8F81-8W81-8G81-8G81-8G21-8221-c2211-9211
    -hr9A41-cE411-9711-hsZ521-8221-cS911-hsJ521-8221-d4211-7C21-dK221-dI211-9iA11-iaT411-iyV111-ivI
    711SbAG1GZ111wRQ1QbzUbC1bCcO111211-lmF111-ebY111-llZ3321611-lnG111-lmL111-lnJ111-lnI21113111921
    -loF2bE21cZ2217111bheMN21bSE21eI721GV21bZ221411-bltG1521D111211-bteG32216A21K11-btf8111-btfJ111
    -btfF111-btf5111-btf8211-btdU111-bteI111-btdX111zS1821G11-bC111-btf7111-bluW1221411-btg71111411
    16321611-btm9P111yRc81-bpnKvtX111bd8Q1WbiNb41b4eWb01b4fCJ2b3152b3C72b3G32b3811b3bx7bF1bSfSM1Wdc
    GW1WxkWW1WbhoWY1Y"

/-- The members of a run and where they move. -/
def Shift.pairs (shift : Shift) : List (Nat × Nat) :=
  (List.range ((shift.last - shift.first) / shift.step + 1)).map fun index =>
    let code := shift.first + index * shift.step
    (code, ((code : Int) + shift.distance).toNat)

/-- Every character that moves, and the one that stands for it. -/
def foldPairs : List (Nat × Nat) :=
  foldShifts.flatMap Shift.pairs

end Text
end PatchScript
