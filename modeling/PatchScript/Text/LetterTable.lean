import PatchScript.Text.CharTable

/-!
# Letters and numbers

Letters of all scripts, with the marks that count as letters, and all characters
that write numbers.
-/

namespace PatchScript
namespace Text

/-- Characters that write words, digits and connectors apart. -/
def letters : CharTable :=
  .ofRuns
    "bTQ6QbB1A1415N1V1mQ4CE57111cE1TI1224116113111K1cB1dV8eM1b2216b5b3E111212118R44TB5bK17EcU184843A
    321GbCDcTOX92415O2JJP7B5O17718b6AC376c41G134FDJ18222M17113438222211814215C2A14316422M1712121245
    4222417411H6B319131M17121539131231F4L44318222M171215382222924215D1G216331432111232333C453313316
    1b4D131N1G38131382131224S418131N1A15381313825314D3CD131b5281313115475M6131I3O191127861118I2DbM5
    761bF211151O111J13251161E4W1bR81b04J4G1b0bVbJ1125GbSA42b211512b71j9142711142b5142X142711142F1bL
    142bVb1GGcE263r82H1Q5c33B7KBLCKCD1312CbG2JE141bVcH7b75bYAV1C49NU25Bb84QbIS4bR2KbE1N2B3bDbG1F18b
    Fb624Ab81BEbJM3Ab02B5b723b541612315fCJYBhQ262b226281111111V2bH1711331734264D5317d81D1GDcT1412A1
    135611111141B245541Hb5wLbGbyEgD6432Cb211512bK71GN97171717171717171WbB1n13P975254cE631cI145b71cM
    HWbCGo8hb4bSxrHbVbA2hH3GA2KbB583d5b392cV2cAKL1XObGCbW11b863113AX5ZDT3bF1CF1GGA51bJ9EIN3bX1111O3
    2G24B6262697171b71E6dFLlyCCN4bDjaSk62cYb27C55C1D151112121d0Xk3IbS2bIb4Cd851dRb0Q6QBcH36262623ZC
    1Q1J121F2EYdFbXbHhFT3bDbBWDU5b75U2b04815b6eEIb04b04b48bGCB1F17121B1F17123bGCiN9MA8O61b619bX6211
    b812312NAN9VbTJ12AMAQ6Qb2bK62bS41258131Tb6T3TZ81SRbIAMAJDId2c1bJbFDbFDb4YS315NgYb61232G6bE33TA1
    8Mb6IbALRN9bYb75AbL91DPNbFH48Z319bS1492A111ZI1Y2164bQ711141F1A7bLN418222M171215382222316157SA11
    211b21A112114123111b8bU1314K3UbU2211f4bI27P6YbR1131bNbI21bZR2EL7f5bLcVbSV82128121U122224cL82bA2
    61112RbF2AHc051Ic1cV8cGXV91b91711bDU2M1Ec17121b83112131122O6121b1121411Nb8h8N9H1b533d31c7zMcUd3
    HfGcv8cPFbdSH6PegZ5q7hi1bBbwHpT7VHc7HUIbCG4VL5Jm0b9fVbSWP2Pb8c34bL7HbS211C79hx2b5WcPd7jhP417121
    i3F1T321E48l0cm4cZ5D397A41gk9cD1bZ122122241C11171bT1428171S141511371jG2P1P1V1P1V1P1V1P1V1P18bz8
    V66fX71H2712155bQX1d4b9A7G1iXUIb8nGSgCU21fRV1M82g8714121F1fHbNbW3131bhG41R1211211A1411116141111
    11312112111111111121124171414111A1H53151HrGQ6Q6QdyUbtqOWerQ2geE2hzLFrAcqIp2bpUfh75jbU"

/-- Characters that write numbers: digits, letters and signs. -/
def numerals : CharTable :=
  .ofRuns
    "bCAdC25123bo1AdQAfIAlGAdAA46d0AdAAdAA26d2Dd7A87cVAcW77Jd1AcOAdAAbYKhGAbYAtZKyH3gNA6AMAiCAdKBeLA
    6Af2AcEAdQA6Abd21366AfIbF25u6bOc6MrIUbmH1vL1P9E3jJ4dUAU81FWAb3FbfoGAf8AiW6eAAb2AfIAMAcEAlAAwsUA
    nPb9CbLH2jHRb04T181dQ5fMAba68P7b39c35M6eG22G2bAbS9bG2U3c35cW8O8b57j66bCA6AhQVeEAb64d47dQUdKAbOA
    e0A7KgZAjIAdAAkEAcUA6Kc4ClOJcLAsEAcETgBAbYAbIAjYAcULbdNd3qq1Acn2AcEAdQA17oMAhANjP3zl5Abp2KCKd0P
    beTbEcnSAlQAnYAgVAtW9dKAvZbN1314c4b91FbaQDczFA"

end Text
end PatchScript
