import PatchScript.Text.CharTable

/-!
# Word characters

Letters, marks, digits and connectors of all scripts, and decimal digits alone.
-/

namespace PatchScript
namespace Text

def wordChars : CharTable :=
  .ofRuns
    "bCA7Q411QbB1A1415N1V1mQ4CE57111Hd91224116113111K1cB1dV1eT1b2216b58b9111212118R44TB5c24cU182A1J2
    1GbN2cTEbI41212bAIS4B5O168c31dL2A1J18222M1711342922248142152CA1112316422M1712121221154223317411
    7GB319131M1712152A131321F42A971318222M1712152922237342152A11G216331432111232333C4533142161EAGD1
    31N1G291314721321242AG418131N1A152913147262142A13CD131bF131554752AA6131I3O191127314611186A22DbM
    5F1Ab3211151O111N2511171A24W1N26AB111114A1b04K1I1b091bLc26c62b211512b71j9142711142b5142X1427111
    42F1bL142bV23WGGcE263r82H1Q5c33B7M9MBKCD1312CcC31422AX31B6cH7b75bYAV1C4CAb425Bb84Q6Ab2S4bR1T2B6
    AD18VbDc53AH9Cd8CbK8A3bD2B5b723G31b35oU262b226281111111V2bH1711331734264D5317F2bD2J1S1D1GDbFXH1
    412A1135611111141B245541Hb5wLbGbyEgD69Cb211512bK71FO97171717171717171WbB1n13PF15254cE22231cI145
    b71cMHWbCGo8hb4bSxrHbVbA2hH3SKbF1A1d7b192cV2bV221118LbI41JbGCbYAA6O311bD2b0CT3bTEB6V1bJ9E2A6N3c
    1O32G25A6262697171b71E6dF122A6lyCCN4bDjaSk62cYb27C55C1D151112121d0Xk3IbS2bIb4C4GGG32O3W51dRJA7Q
    411QBcH36262623ZC1Q1J121F2EYdFbXbHdS1dMT3bDF1VWDU5b75U2b04815b6eE2A6b04b04b48bGCB1F17121B1F1712
    3bGCiN9MA8O61b619bX6211b812312NAN9VbTJ12AMAQbYbK62bS41258131T2341WT3TZ81UPbIAMAJDId2c1bJbFDbFDb
    48A6b2351NgYb61232G3bJXA18XVMb6LRN9bZVG9bO71DP7A6bH1A448b0219bX441D11ZI1b164bQ711141F1A7bN5A641
    8222M1712151A22232161572735BA11211b21A11211418D2Tc35A44UbY118AeMbI29N6YbT31BAb2bL7A6KSR2F4A67f5
    bNcTc2L82128121U1229CAbY82bA2812RbR818c231Ic1fJXFA691b919FAOU2M1Ec17121b83112198A66121b112167Ai
    MN9H1b535DBcD1c7zMcUd3HfGcv8cPFbdSGMAegZ5q7hi1bMbw6pT7V1A6c71A6U25BbJ94CA9L5Jm0b93AfIbSdKc34bL7
    HbS212B2EgoG8biEb5Ajo7417121i3F1T321E48l0cm4cZ5D397A32em1AoEbA2Np25368827U4e43mBcD1bZ122122241C
    11171bT1428171S141511371jG2P1P1V1P1V1P1V1P1V1P182bEo8bJ4bE81E1M51FbeOV66fX71H2712155bQX1d4b93E2
    A41iXVHbMn2b6fYb7nH714121F1fHB7b5c44Abh241R1211211A14111161411111131211211111111112112417141411
    1A1H53151HrGQ6Q6QcvYAbcMbtqOWelE6g62ge2EhzLFrAcqIp2bpUfh75emGbdgs8gO"

def decimalDigits : CharTable :=
  .ofRuns
    "bCAbrQAdQAfIAlGAdAAdAAdAAdAAdAAdAAdAAdAAdAAcOAdAAbYAhQAbYAbzQAb2AiCAdKAeMA6Af2AcEAdQA6AblrQAsUA
    b2AfIAMAcEAlAAwsUAbnAAciMA6Aw4AdKAbOAe0AhQAjIAdAAkEAcUA6Kc4AlQAcUAsEAcEAgUAbYAlQAsa6Acn2AcEAdQA
    oUAbacUAcz0bEcnSAlQAnYAgVAxPAfc6A"

end Text
end PatchScript
