import PatchCompiler.Template.Basic

/-!
# Messages for instruments
-/

namespace PatchCompiler.Sheet

/-- Numbers of the receivers and senders of messages for instruments. -/
def midiHashes : List String :=
  ["#define HV_HASH_NOTEIN          0x67E37CA3\n#define HV_HASH_CTLIN           0x41BE0f9C",
   "#define HV_HASH_PGMIN           0x2E1EA03D\n#define HV_HASH_TOUCHIN         0x553925BD",
   "#define HV_HASH_BENDIN          0x3083F0F7\n#define HV_HASH_MIDIIN          0x149631bE",
   "#define HV_HASH_MIDIREALTIMEIN  0x6FFF0BCF\n\n#define HV_HASH_NOTEOUT         0xD1D4AC2",
   "#define HV_HASH_CTLOUT          0xE5e2A040\n#define HV_HASH_PGMOUT          0x8753E39E",
   "#define HV_HASH_TOUCHOUT        0x476D4387\n#define HV_HASH_BENDOUT         0xE8458013",
   "#define HV_HASH_MIDIOUT         0x6511DE55\n#define HV_HASH_MIDIOUTPORT     0x165707E4"]

end PatchCompiler.Sheet
