import PatchScript.Text.CharTable

/-!
# Letters with case

Whether a sigma ends a word depends on the letters around it.  Letters with case
make a word; marks and some punctuation do not end it.
-/

namespace PatchScript
namespace Text

/-- Characters that neither belong to a word nor end it. -/
def caseIgnorable : CharTable :=
  .ofRuns
    "b3161B1Z111bZ141114122nZfC42419211gZ7fR151bDb911121211b81B6AB11Z1ALG1cT81A14X111URcJBbMB4121OOb
    73b817259b5bMbJ111484137A2D1F1bM14481K2Q122bL142422331U231B2bL1451241K2M611bM121148172B2U1bP1C1
    bE131bJ113531472B2T1bM1216152K2S2bL24481K2T1c017311cI127B9cQ1299117c12R11111bJE15125B1b091cU416
    1222P243G4D12261F1cM1qW3baA3T2U2U2bS217812B3151b95bF1bT2Y1dA3429163g3221bM1171111286A21b318bA2C
    K4bC1151151b49C2W42213bK1123113bM822bS6cA31D17416132bEbRD1YcTmD113B3D3D3D2C582A12125bD51A11D1GD
    bFXde32d53dH1F1cOWbB1n11b043551cL6cL3bejY1biQ6hI1cQ41A11S4c82EYc61N3cU432813141P251e72QID1b28PB
    bA3bC12422H1L2bU62222C181Z1B1bF113225211R1E25211cS593dD12141vr41e3HpXG31CGY121eP17161B1Z111bB1b
    92bV1L3o91gA1e55bcL61b619q631254b4341eL2pX4b21Q511iR2O1bG6bYBbD4dF1bIFb5122A3bD4222141A1bE3b051
    8bQ1C2bG9A421cN321126121eD138L2bL231b1735bY6D11111E2cD82311N1cC6114212gM46212R2cD82112cY1112611
    cT1112415h7912h421141e042241WAb4624819623bAD12fI11311fL71611cAM271212dE631121711c023111bT1hT2B2
    bG55111N1fs5H6FmgGC33crC5bN794o43b42nE1bRHbS212D2rn041712dlQ214faKbA2Np439G27U4e43ccZbJ4bE81E1M
    51FblS71H2712155bQX1eGEk81bP4o35h22gR121725191mW7d18cxZ5bglmP1UcOdKgO"

def cased : CharTable :=
  .ofRuns
    "bTQ6QbB1A1415N1V1fF144fS2QfC42233116113111K1cB1dV8eM1b29b5daVb211512b723sOcE26ciIB5b723bSb8bRD1
    YcThQ262b226281111111V2bH1711331734264D5317h91412A1135611111141641245541HW32wPbGbyEdG2cV6432Cb2
    1151bhcYbAISdQc61N341c5O231wTb7597c8vrK7C5bcPQ6Qbh1c8cOb04b0d8B1F17121B1F1712bw3bFDbFcLMAMdaYbS
    xj4bSWP2PbbrGcD1bZ122122241C11171bT1428171S141511371jG2P1P1V1P1V1P1V1P1V1P18bz8A1K66crXbWceCQ6Q
    6Q"

end Text
end PatchScript
