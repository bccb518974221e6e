import Scenario.Text.CharSet

/-!
# General categories of characters

Every code point has one general category of the Unicode standard. The table
lists runs of equal category from code point zero on, each as its length and a
letter for the category.
-/

set_option autoImplicit false

namespace Scenario.Text

def categoryRuns : String :=
  String.join [
    "32Z1W3R1T3R1N1O1R1S1R1M2R10I2R3S2R26A1N1R1O1U1L1U26B1N1S1O1S33Z1W1R4T1V1R1U1V1E1P1S1a1V1U1V1",
    "S2K1U1B2R1U1K1E1Q3K1R23A1S7A24B1S8B1A1B1A1B1A1B1A1B1A1B1A1B1A1B1A1B1A1B1A1B1A1B1A1B1A1B1A1B1",
    "A1B1A1B1A1B1A1B1A1B1A1B1A1B1A1B1A1B1A1B1A1B1A1B1A1B1A2B1A1B1A1B1A1B1A1B1A1B1A1B1A1B1A2B1A1B1",
    "A1B1A1B1A1B1A1B1A1B1A1B1A1B1A1B1A1B1A1B1A1B1A1B1A1B1A1B1A1B1A1B1A1B1A1B1A1B1A1B1A1B1A1B2A1B1",
    "A1B1A3B2A1B1A1B2A1B3A2B4A1B2A1B3A3B2A1B2A1B1A1B1A1B2A1B1A2B1A1B2A1B3A1B1A1B2A2B1E1A3B4E1A1C1",
    "B1A1C1B1A1C1B1A1B1A1B1A1B1A1B1A1B1A1B1A1B1A2B1A1B1A1B1A1B1A1B1A1B1A1B1A1B1A1B1A2B1A1C1B1A1B3",
    "A1B1A1B1A1B1A1B1A1B1A1B1A1B1A1B1A1B1A1B1A1B1A1B1A1B1A1B1A1B1A1B1A1B1A1B1A1B1A1B1A1B1A1B1A1B1",
    "A1B1A1B1A1B1A1B1A1B1A1B1A7B2A1B2A2B1A1B4A1B1A1B1A1B1A1B1A69B1E27B18D4U12D14U5D7U1D1U1D17U112",
    "F1A1B1A1B1D1U1A1B2d1D3B1R1A4d2U1A1R3A1d1A1d2A1B17A1d9A35B1A2B3A3B1A1B1A1B1A1B1A1B1A1B1A1B1A1",
    "B1A1B1A1B1A1B1A1B1A5B1A1B1S1A1B2A2B51A48B1A1B1A1B1A1B1A1B1A1B1A1B1A1B1A1B1A1B1A1B1A1B1A1B1A1",
    "B1A1B1A1B1A1B1A1B1V5F2H1A1B1A1B1A1B1A1B1A1B1A1B1A1B1A1B1A1B1A1B1A1B1A1B1A1B1A1B1A1B1A1B1A1B1",
    "A1B1A1B1A1B1A1B1A1B1A1B1A1B1A1B1A1B1A1B2A1B1A1B1A1B1A1B1A1B1A1B1A2B1A1B1A1B1A1B1A1B1A1B1A1B1",
    "A1B1A1B1A1B1A1B1A1B1A1B1A1B1A1B1A1B1A1B1A1B1A1B1A1B1A1B1A1B1A1B1A1B1A1B1A1B1A1B1A1B1A1B1A1B1",
    "A1B1A1B1A1B1A1B1A1B1A1B1A1B1A1B1A1B1A1B1A1B1A1B1A1B1A1B1A1B1A1B1A1B1A1B1A1B1d38A2d1D6R41B1R1",
    "M2d2V1T1d45F1M1F1R2F1R2F1R1F8d27E4d4E2R11d6a3S2R1T2R2V11F1R1a3R32E1D10E21F10I4R2E1F99E1R1E7F",
    "1a1V6F2D2F1V4F2E10I3E2V1E14R1d1a1E1F30E27F2d89E11F1E14d10I33E9F2D1V3R1D2d1F2T22E4F1D9F1D3F1D",
    "5F2d15R1d25E3F2d1R1d11E5d24E1U6E1d2a5d9F41E1D24F1a32F1G54E1F1G1F1E3G8F4G1F2G1E7F10E2F2R10I1R",
    "1D15E1F2G1d8E2d2E2d22E1d7E1d1E3d4E2d1F1E3G4F2d2G2d2G1F1E8d1G4d2E1d3E2F2d10I2E2T6K1V1T1E1R1F2",
    "d2F1G1d6E4d2E2d22E1d7E1d2E1d2E1d2E2d1F1d3G2F4d2F2d3F3d1F7d4E1d1E7d10I2F3E1F1R10d2F1G1d9E1d3E",
    "1d22E1d7E1d2E1d5E2d1F1E3G5F1d2F1G1d2G1F2d1E15d2E2F2d10I1R1T7d1E6F1d1F2G1d8E2d2E2d22E1d7E1d2E",
    "1d5E2d1F1E1G1F1G4F2d2G2d2G1F7d2F1G4d2E1d3E2F2d10I1V1E6K10d1F1E1d6E3d3E1d4E3d2E1d1E1d2E3d2E3d",
    "3E3d12E4d2G1F2G3d3G1d3G1F2d1E6d1G14d10I3K6V1T1V5d1F3G1F8E1d3E1d23E1d16E2d1F1E3F4G1d3F1d4F7d2",
    "F1d3E2d1E2d2E2F2d10I7d1R7K1V1E1F2G1R8E1d3E1d23E1d10E1d5E2d1F1E1G1F5G1d1F2G1d2G2F7d2G6d2E1d2E",
    "2F2d10I1d2E1G12d2F2G9E1d3E1d41E2F1E3G4F1d3G1d3G1F1E1V4d3E1G7K3E2F2d10I9K1V6E1d1F2G1d18E3d24E",
    "1d9E1d1E2d7E3d1F4d3G3F1d1F1d8G6d10I2d2G1R12d48E1F2E7F4d1T6E1D8F1R10I2R37d2E1d1E1d5E1d24E1d1E",
    "1d10E1F2E9F1E2d5E1d1D1d7F1d10I2d4E32d1E3V15R1V1R3V2F6V10I10K1V1F1V1F1V1F1N1O1N1O2G8E1d36E4d1",
    "4F1G5F1R2F5E11F1d36F1d8V1F6V1d2V5R4V2R37d43E2G4F1G6F1G2F2G2F1E10I6R6E2G2F4E3F1E3G2E7G3E4F13E",
    "1F2G2F6G1F1E1G10I3G1F2V38A1d1A5d1A2d43B1R1D3B329E1d4E2d7E1d1E1d4E2d41E1d4E2d33E1d4E2d7E1d1E1",
    "d4E2d15E1d57E1d4E2d67E2d3F9R20K3d16E10V6d86A2d6B2d1M620E1V1R17E1W26E1N1O3d75E3R3J8E7d18E3F1G",
    "9d19E2F1G2R9d18E2F12d13E1d3E1d2F12d52E2F1G7F8G1F2G11F3R1D3R1T1E1F2d10I6d10K6d6R1M4R3F1a1F10I",
    "6d35E1D53E7d5E2F34E1F1E5d70E10d31E1d3F4G2F3G4d2G1F6G3F4d1V3d2R10I30E2d5E11d44E4d26E6d10I1K3d",
    "34V23E2F2G1F2d2R53E1G1F1G7F1d1F1G1F2G8F6G10F2d1F10I6d10I6d7R1D6R2d14F1H16F49d4F1G47E1F1G5F1G",
    "1F5G1F2G8E1d2R10I7R10V9F9V3R2F1G30E1G4F2G2F1G3F2E10I44E1F1G2F3G1F1G3F2G8d4R36E8G8F2G2F3d5R10",
    "I3d3E10I30E6D2R9B1A1B5d43A2d3A8R8d3F1R13F1G7F4E1F6E1F2E1G2F1E5d44B63D13B1D34B37D64F1A1B1A1B1",
    "A1B1A1B1A1B1A1B1A1B1A1B1A1B1A1B1A1B1A1B1A1B1A1B1A1B1A1B1A1B1A1B1A1B1A1B1A1B1A1B1A1B1A1B1A1B1",
    "A1B1A1B1A1B1A1B1A1B1A1B1A1B1A1B1A1B1A1B1A1B1A1B1A1B1A1B1A1B1A1B1A1B1A1B1A1B1A1B1A1B1A1B1A1B1",
    "A1B1A1B1A1B1A1B1A1B1A1B1A1B1A1B1A1B1A1B1A1B1A1B1A1B1A1B1A1B1A1B1A1B1A1B1A1B1A1B1A1B1A1B1A1B1",
    "A1B1A1B1A1B1A9B1A1B1A1B1A1B1A1B1A1B1A1B1A1B1A1B1A1B1A1B1A1B1A1B1A1B1A1B1A1B1A1B1A1B1A1B1A1B1",
    "A1B1A1B1A1B1A1B1A1B1A1B1A1B1A1B1A1B1A1B1A1B1A1B1A1B1A1B1A1B1A1B1A1B1A1B1A1B1A1B1A1B1A1B1A1B1",
    "A1B1A1B1A1B1A1B1A1B1A1B1A9B8A6B2d6A2d8B8A8B8A6B2d6A2d8B1d1A1d1A1d1A1d1A8B8A14B2d8B8C8B8C8B8C",
    "5B1d2B4A1C1U1B3U3B1d2B4A1C3U4B2d2B4A1d3U8B5A3U2d3B1d2B4A1C2U1d11W5a6M2R1P1Q1N2P1Q1N1P8R1X1Y5",
    "a1W9R1P1Q4R2L3R1S1N1O11R1S1R1L10R1W5a1d10a1K1D2d6K3S1N1O1D10K3S1N1O1d13D3d33T15d13F4H1F3H12F",
    "15d2V1A4V1A2V1B3A2B3A1B1V1A2V1S5A6V1A1V1A1V1A1V4A1V1B4A1B4E1B2V2B2A5S1A4B1V1S2V1B1V16K35J1A1",
    "B4J1K2V4d5S5V2S4V1S2V1S2V1S7V1S31V2S2V1S1V1S31V268S8V1N1O1N1O20V2S7V1N1O81V1S30V25S40V6S72V2",
    "2d11V21d60K78V22K183V1S9V1S54V8S111V1S248V1N1O1N1O1N1O1N1O1N1O1N1O1N1O30K44V5S1N1O31S1N1O1N1",
    "O1N1O1N1O1N1O16S256V131S1N1O1N1O1N1O1N1O1N1O1N1O1N1O1N1O1N1O1N1O1N1O63S1N1O1N1O32S1N1O258S48",
    "V21S2V6S39V2d32V1d105V48A48B1A1B3A2B1A1B1A1B1A1B4A1B1A2B1A6B2D3A1B1A1B1A1B1A1B1A1B1A1B1A1B1A",
    "1B1A1B1A1B1A1B1A1B1A1B1A1B1A1B1A1B1A1B1A1B1A1B1A1B1A1B1A1B1A1B1A1B1A1B1A1B1A1B1A1B1A1B1A1B1A",
    "1B1A1B1A1B1A1B1A1B1A1B1A1B1A1B1A1B1A1B1A1B1A1B1A1B1A1B1A1B1A1B1A1B1A1B1A1B1A2B6V1A1B1A1B3F1A",
    "1B5d4R1K2R38B1d1B5d1B2d56E7d1D1R14d1F23E9d7E1d7E1d7E1d7E1d7E1d7E1d7E1d7E1d32F2R1P1Q1P1Q3R1P1",
    "Q1R1P1Q9R1M2R1M1R1P1Q2R1P1Q1N1O1N1O1N1O1N1O5R1D10R2M4R1M1R1N13R2V3R1N1O1N1O1N1O1N1O1M34d26V1",
    "d89V12d214V26d16V1W3R1V1D1E1J1N1O1N1O1N1O1N1O1N1O2V1N1O1N1O1N1O1N1O1M1N2O1V9J4F2G1M5D2V3J1D1",
    "E1R2V1d86E2d2F2U2D1E1M90E1R3D1E5d43E1d94E1d2V4K10V32E38V9d1V16E31V1d10K30V8K1V15K32V10K39V15",
    "K320V6592E64V21013E1D1143E3d55V9d40E6D2R268E1D3R16E10I2E20d1A1B1A1B1A1B1A1B1A1B1A1B1A1B1A1B1",
    "A1B1A1B1A1B1A1B1A1B1A1B1A1B1A1B1A1B1A1B1A1B1A1B1A1B1A1B1A1B1E1F3H1R10F1R1D1A1B1A1B1A1B1A1B1A",
    "1B1A1B1A1B1A1B1A1B1A1B1A1B1A1B1A1B1A1B2D2F70E10J2F6R8d23U9D2U1A1B1A1B1A1B1A1B1A1B1A1B1A3B1A1",
    "B1A1B1A1B1A1B1A1B1A1B1A1B1A1B1A1B1A1B1A1B1A1B1A1B1A1B1A1B1A1B1A1B1A1B1A1B1A1B1A1B1A1B1A1B1A1",
    "B1A1B1A1B1A1B1A1B1A1B1A1B1A1B1D8B1A1B1A1B2A1B1A1B1A1B1A1B1A1B1D2U1A1B1A1B1E1A1B1A3B1A1B1A1B1",
    "A1B1A1B1A1B1A1B1A1B1A1B1A1B1A1B5A1B5A1B1A1B1A1B1A1B1A1B1A1B1A1B1A1B4A1B1A1B2A1B2d1A1B1d1B1d1",
    "B1A1B1A1B1A1B1A21d3D1A1B1E2D1B7E1F3E1F4E1F23E2G2F1G4V1F3d6K2V1T1V6d52E4R8d2G50E16G2F8d2R10I6",
    "d18F6E3R1E1R2E1F10I28E8F2R23E11F2G11d1R29E3d3F1G47E1F2G4F2G2F3G13R1d1D10I4d2R5E1F1D9E10I5E1d",
    "41E6F2G2F2G2F9d3E1F8E1F1G2d10I2d4R16E1D6E3V1E1G1F1G50E1F1E3F2E2F5E2F1E1F1E24d2E1D2R11E1G2F2G",
    "2R1E2D1G1F10d6E2d6E2d6E9d7E1d7E1d43B1U4D9B1D2U4d80B35E2G1F2G1F2G1R1G1F2d10I6d11172E12d23E4d4",
    "9E4d2048b6400c366E2d106E38d7B12d5B5d1E1F10E1S13E1d5E1d1E1d2E1d2E1d108E17U16d363E1O1N16V64E2d",
    "54E7d1V32d12E1T3V16F7R1N1O1R6d16F1R2M2L1N1O1N1O1N1O1N1O1N1O1N1O1N1O1N1O2R1N1O4R3L3R1d4R1M1N1",
    "O1N1O1N1O3R1S1M3S1d1R1T2R4d5E1d135E2d1a1d3R1T3R1N1O1R1S1R1M2R10I2R3S2R26A1N1R1O1U1L1U26B1N1S",
    "1O1S1N1O1R1N1O2R10E1D45E2D31E3d6E2d6E2d6E2d3E3d2T1S1U1V2T1d1V4S2V10d3a2V2d12E1d26E1d19E1d2E1",
    "d15E2d14E34d123E5d3R4d45K3d9V53J4K17V2K3V1d13V3d1V47d45V1F130d29E3d49E15d1F27K4d32E4K9d20E1J",
    "8E1J5d38E5F5d30E1d1R36E4d8E1R5J42d40A40B78E2d10I6d36A4d36B4d40E8d52E11d1R11A1d15A1d7A1d2A1d1",
    "1B1d15B1d7B1d2B3d52E12d311E9d22E10d8E24d6D1d42D1d9D69d6E2d1E1d44E1d2E3d1E2d23E1d1R8K23E2V7K3",
    "1E8d9K48d19E1d2E5d5K22E6K3d1R26E5d1R64d56E4d2K2E16K2d46K1E3F1d2F5d4F4E1d3E1d29E2d3F4d1F9K7d9",
    "R7d29E2K1R29E3K32d8E1V28E2F4d5K7R9d54E3d7R22E2d8K19E5d8K18E7d4R12d7K80d73E55d51A13d51B7d6K36",
    "E4F8d10I6d10I4E1D1E22A3d5F1M1D22B8d2S208d31K1d42E1d2F1M2d2E16d3E55d4F29E10K1E8d22E11F4K5R22d",
    "18E4F4R38d21E7K20d23E9d1G1F1G53E15F7R4d20K10I1F2E2F1E9d3F1G45E3G4F2G2F2R1a4R1F10d1a2d25E7d10",
    "I6d3F36E5F1G8F1d10I4R1E2G1E8d35E1F2R1E9d2F1G48E3G9F2G4E4R4F1R1G1F10I1E1R1E3R1d20K11d18E1d25E",
    "3G3F2G1F1G2F6R1F2E1F62d7E1d1E1d4E1d15E1d10E1R6d47E1F3G8F5d10I6d2F2G1d8E2d2E2d22E1d7E1d2E1d5E",
    "1d2F1E2G1F4G2d2G2d3G2d1E6d1G5d5E2G2d7F3d5F11d10E1d1E2d1E1d38E1d1E3G6F1d1G2d1G1d4G1d2G1F1G1F1",
    "E1F1E2R1d2R8d2F29d53E3G8F2G3F1G1F4E5R10I2R1d1R1F3E30d48E3G6F1G1F4G2F1G2F2E1R1E8d10I166d47E3G",
    "4F2d4G2F1G2F23R4E2F34d48E3G8F2G1F1G2F3R1E11d10I6d13R19d43E1F1G1F2G6F1G1F1E1R6d10I6d20I28d27E",
    "2d1F1G1F2G4F1G5F4d10I2K3R1V7E185d44E3G9F1G2F1R100d32A32B10I9K12d8E2d1E2d8E1d2E1d24E6G1d2G2d2",
    "F1G1F1E1G1E1G1F3R9d10I70d8E2d39E3G4F2d2F4G1F1E1R1E1G27d1E10F40E6F1G1E4F8R1F8d1E6F2G3F46E13F1",
    "G2F3R1E5R13d73E7d10R182d33E1R14d10I6d9E1d37E1G7F1d6F1G1F1E5R10d10I19K3d2R30E2d22F1d1G7F1G2F1",
    "G2F73d7E1d2E1d38E6F3d1F1d2F1d7F1E1F8d10I6d6E1d2E1d32E5G1d2F1d2G1F1G1F1E7d10I310d19E2F2G2R7d2",
    "F1E1G13E1d34E2G5F3d2G1F1G1F13R10I1F85d1E15d21K8V4T17V13d1R922E102d111J1d5R11d196E2636d97E2R1",
    "3d1072E16a1F6E15F10d3995E5d583E6841d30E12F3G3F10I1734d569E7d31E1d10I4d2R79E1d10I6d30E2d5F1R1",
    "0d48E7F5R4V4D1R1V10d10I1d7K1d21E5d19E432d3D40E2D3R10I198d32A32B23K4R101d75E4d1F1E55G7d4F13D6",
    "4d2D1R1D1F11d2G14d6136E8d1238E41d10E8935d4D1d7D1d2D1d291E15d1E29d3E2d1E14d4E8d396E2308d107E5",
    "d13E3d9E7d10E2d1V2F1R4a3932d240V10I6d436V76d46F2d23F9d116V60d246V10d39V2d60V2G3F3V6G8a8F2V7F",
    "30V4F61V21d66V3F1V122d20K12d20K12d87V9d25K135d26A26B26A7B1d18B26A26B1A1d2A2d1A2d2A2d4A1d8A4B",
    "1d1B1d7B1d11B26A26B2A1d4A2d8A1d7A1d26B2A1d4A1d5A1d1A3d7A1d26B26A26B26A26B26A26B26A26B26A26B2",
    "6A28B2d25A1S25B1S6B25A1S25B1S6B25A1S25B1S6B25A1S25B1S6B25A1S25B1S6B1A1B2d50I512V55F4V50F8V1F",
    "14V1F2V5R15d5F1d15F1104d10B1E20B6d6B213d7F1d17F2d7F1d2F1d5F5d62D33d1F112d45E3d7F7D2d10I4d1E1",
    "V320d30E1F17d44E4F10I5d1T464d27E1D4F10I214d30E2F1E10I4d1R480d7E1d4E1d2E1d15E1d197E2d9K7F41d3",
    "4A34B7F1D4d10I4d2R785d59K1V3K1T4K76d45K1V15K194d4E1d27E1d2E1d1E2d1E1d10E1d4E1d1E1d1E6d1E4d1E",
    "1d1E1d1E1d3E1d2E1d1E2d1E1d1E1d1E1d1E1d1E1d2E1d1E2d4E1d7E1d4E1d4E1d1E1d10E1d17E5d3E1d5E1d17E5",
    "2d2S270d44V4d100V12d15V2d15V1d15V1d37V10d13K161V56d29V13d44V4d9V7d2V14d6V154d251V5U728V4d17V",
    "3d13V3d119V4d95V6d12V4d1V15d12V4d56V8d10V6d40V8d30V2d12V4d2V62d340V12d14V2d13V3d10V5d56V7d15",
    "V2d11V6d9V7d147V1d92V10I1030d42720E32d4154E6d222E2d5762E14d7473E15d622E2466d542E1506d4939E5d",
    "4192E711761d1a30d96a128d240F65040d65534c2d65534c2d"]

def decodeRuns : Nat → Nat → List Char → List (Nat × Char)
  | _, _, [] => []
  | start, n, c :: r =>
    if c.isDigit then decodeRuns start (n * 10 + (c.toNat - 48)) r
    else (start, c) :: decodeRuns (start + n) 0 r

def categoryTable : Array (Nat × Char) := (decodeRuns 0 0 categoryRuns.toList).toArray

def findRun (table : Array (Nat × Char)) (n : Nat) : Nat → Nat → Nat → Char
  | 0, lo, _ => (table[lo]?.getD (0, 'd')).2
  | fuel + 1, lo, hi =>
    if hi ≤ lo + 1 then (table[lo]?.getD (0, 'd')).2
    else
      let mid := (lo + hi) / 2
      if (table[mid]?.getD (0, 'd')).1 ≤ n then findRun table n fuel mid hi
      else findRun table n fuel lo mid

def categoryLetter (c : Char) : Char :=
  findRun categoryTable c.toNat 20 0 categoryTable.size

def categoryNames : List (String × Char) :=
  [("Lu", 'A'), ("Ll", 'B'), ("Lt", 'C'), ("Lm", 'D'), ("Lo", 'E'), ("Mn", 'F'),
   ("Mc", 'G'), ("Me", 'H'), ("Nd", 'I'), ("Nl", 'J'), ("No", 'K'), ("Pc", 'L'),
   ("Pd", 'M'), ("Ps", 'N'), ("Pe", 'O'), ("Pi", 'P'), ("Pf", 'Q'), ("Po", 'R'),
   ("Sm", 'S'), ("Sc", 'T'), ("Sk", 'U'), ("So", 'V'), ("Zs", 'W'), ("Zl", 'X'),
   ("Zp", 'Y'), ("Cc", 'Z'), ("Cf", 'a'), ("Cs", 'b'), ("Co", 'c'), ("Cn", 'd')]

def categoryOf (c : Char) : String :=
  let l := categoryLetter c
  match categoryNames.find? (·.2 == l) with
  | some (name, _) => name
  | none => "Cn"

def isAsciiWord (c : Char) : Bool := c.isAlphanum || c == '_'

def runsOf (letters : List Char) : List (Nat × Char) → List (Nat × Nat)
  | [] => []
  | [(start, l)] => if letters.contains l then [(start, lastCode)] else []
  | (start, l) :: (next, m) :: r =>
    if letters.contains l then (start, next - 1) :: runsOf letters ((next, m) :: r)
    else runsOf letters ((next, m) :: r)

def categorySet (names : List String) : CharSet :=
  let letters := (categoryNames.filter (names.contains ·.1)).map (·.2)
  .ofRuns (runsOf letters categoryTable.toList)

end Scenario.Text
