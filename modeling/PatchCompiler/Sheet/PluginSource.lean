import PatchCompiler.Sheet.Midi
import PatchCompiler.Sheet.Plugin

/-!
# Code of plugins

The file that defines the functions of a plugin.
-/

namespace PatchCompiler.Sheet

def context : List String :=
  ["\n
  _context = hv_`name`_new_with_options(getSampleRate(), `pool_sizes_kb.internal`, `pool_sizes_kb.inputQueue`, `pool_sizes_kb.outputQueue`);
  _context->setUserData(this);
  _context->setSendHook(&hvSendHookFunc);
  _context->setPrintHook(&hvPrintHookFunc);\n\n  "]

def renewed : Piece :=
  .when (.any "receivers")
    [.text ["
  // ensure that the new context has the current parameters
  for (int i = 0; i < HV_LV2_NUM_PARAMETERS; ++i) \x7b
    setParameterValue(i, _parameters[i]);
  \x7d\n  "]]

/-- Passes on what an instrument has played, with the channel as the last value. -/
def heard (command hash : String) (values : List String) : String :=
  s!"      case 0x{command}
        _context->sendMessageToReceiverV(HV_HASH_{hash}, 1000.0*timePos.frame/getSampleRate(), \"" ++
    String.join (values.map fun _ => "f") ++ "f\"," ++
    String.join (values.map fun value => s!"\n          (float) {value}") ++
    "\n          (float) channel);\n        break;\n      \x7d"

/-- Sends the values of a message, with a channel as the last one, to an instrument. -/
def sent (hash status : String) (values written : List String) : String :=
  s!"    case HV_HASH_{hash}:\n    \x7b" ++
    String.join ((values ++ ["ch"]).zipIdx.map fun (value, i) =>
      s!"\n      uint8_t {value} = hv_msg_getFloat(m, {i});") ++
    s!"\n      ch %= 16;\n
      midiSendEvent.size = {written.length + 1};\n      midiSendEvent.data[0] = 0x{status}" ++
    String.join (written.zipIdx.map fun (value, i) =>
      s!"\n      midiSendEvent.data[{i + 1}] = {value};") ++
    "\n\n      writeMidiEvent(midiSendEvent);\n      break;\n    \x7d"

def pluginSource : Template :=
  [.text ["`copyright`\n\n#include \"Heavy_`name`.h\"\n#include \"`class_name`.hpp\"",
     "#include <set>\n\n\n#define HV_LV2_NUM_PARAMETERS "],
   .value (.length (.name "receivers")),
   .text ["\n\n"], .text midiHashes,
   .text ["\n\n#define MIDI_RT_CLOCK           0xF8",
     "#define MIDI_RT_START           0xFA\n#define MIDI_RT_CONTINUE        0xFB",
     "#define MIDI_RT_STOP            0xFC\n#define MIDI_RT_ACTIVESENSE     0xFE",
     "#define MIDI_RT_RESET           0xFF\n\n// midi realtime messages\nstd::set<int> mrtSet \x7b
  MIDI_RT_CLOCK,
  MIDI_RT_START,
  MIDI_RT_CONTINUE,
  MIDI_RT_STOP,
  MIDI_RT_RESET\n\x7d;\n\n\nSTART_NAMESPACE_DISTRHO\n\n",
     rule,
     "// Heavy Send and Print hooks\n",
     "static void hvSendHookFunc(HeavyContextInterface *c, const char *sendName, uint32_t sendHash, const HvMessage *m)",
     "\x7b
  `class_name`* plugin = (`class_name`*)c->getUserData();
  if (plugin != nullptr)
  \x7b\n#if DISTRHO_PLUGIN_WANT_MIDI_OUTPUT
    plugin->handleMidiSend(sendHash, m);\n#endif
  \x7d\n\x7d\n",
     "static void hvPrintHookFunc(HeavyContextInterface *c, const char *printLabel, const char *msgString, const HvMessage *m)",
     "\x7b
  char buf[64];
  char* dst = buf;
  int len = strnlen(printLabel, 48);
  dst = strncpy(dst, printLabel, len);
  dst = strcpy(dst, \" \");
  dst = strncpy(dst, msgString, 63-len);
  printf(\"> %s \\n\", buf);\n\x7d\n",
     rule,
     "// Main DPF plugin class\n\n`class_name`::`class_name`()
 : Plugin(HV_LV2_NUM_PARAMETERS, 0, 0)\n\x7b\n  "],
   .entries "receivers"
     [.text ["\n  _parameters["],
      .value (.operation .subtract (.path "loop.index") (.number 1)),
      .text ["] = `v.attributes.default`f;\n  "]],
   .text context, renewed,
   .text ["\n\x7d\n\n`class_name`::~`class_name`() \x7b
  hv_`name`_free(_context);\n\x7d\n",
     "void `class_name`::initParameter(uint32_t index, Parameter& parameter)\n\x7b\n  "],
   .when (.any "receivers")
     [.text ["\n  // initialise parameters with defaults\n  switch (index)\n  \x7b\n    "],
      .entries "receivers"
        [.text ["\n      case param`v.display`:\n        parameter.name = \""],
         .value (.change (.replace "_" " ") (.path "v.display")),
         .text ["\";
        parameter.symbol = \"`v.display|lower`\";
        parameter.hints = kParameterIsAutomatable\n      "],
         .choose (.operation .equal (.path "v.attributes.type") (.text "bool"))
           [.text ["\n        | kParameterIsBoolean\n      "]]
           [.when (.operation .equal (.path "v.attributes.type") (.text "trig"))
              [.text ["\n        | kParameterIsTrigger\n      "]]],
         .text [";
        parameter.ranges.min = `v.attributes.min`f;
        parameter.ranges.max = `v.attributes.max`f;
        parameter.ranges.def = `v.attributes.default`f;
        break;\n    "]],
      .text ["\n  \x7d\n  "]],
   .text ["\n\x7d\n", rule,
     "// Internal data\n\nfloat `class_name`::getParameterValue(uint32_t index) const\n\x7b\n  "],
   .choose (.any "receivers")
     [.text ["\n  return _parameters[index];\n  "]]
     [.text ["\n  return 0.0f;\n  "]],
   .text ["\n\x7d\n\nvoid `class_name`::setParameterValue(uint32_t index, float value)\n\x7b\n  "],
   .choose (.any "receivers")
     [.text ["\n  switch (index) \x7b\n    "],
      .entries "receivers"
        [.text ["\n    case "],
         .value (.operation .subtract (.path "loop.index") (.number 1)),
         .text [": \x7b
      _context->sendFloatToReceiver(
          Heavy_`name`::Parameter::In::`k|upper`,
          value);
      break;
    \x7d\n    "]],
      .text ["\n    default: return;\n  \x7d\n  _parameters[index] = value;\n  "]]
     [.text ["\n  // nothing to do\n  "]],
   .text ["\n\x7d\n\n", rule,
     "// Process\n\n// void `class_name`::activate()\n// \x7b\n\n// \x7d\n",
     "// void `class_name`::deactivate()\n// \x7b\n\n// \x7d\n\n#if DISTRHO_PLUGIN_WANT_MIDI_INPUT",
     rule,
     "// Midi Input handler\n",
     "void `class_name`::handleMidiInput(uint32_t frames, const MidiEvent* midiEvents, uint32_t midiEventCount)",
     "\x7b
  // Realtime events
  const TimePosition& timePos(getTimePosition());
  bool reset = false;\n
  if (timePos.playing)
  \x7b
    if (timePos.frame == 0)
    \x7b
      _context->sendMessageToReceiverV(HV_HASH_MIDIREALTIMEIN, 0,
        \"ff\", (float) MIDI_RT_RESET);
      reset = true;
    \x7d\n
    if (! this->wasPlaying)
    \x7b
      if (timePos.frame == 0)
      \x7b
        _context->sendMessageToReceiverV(HV_HASH_MIDIREALTIMEIN, 0,
          \"ff\", (float) MIDI_RT_START);
      \x7d
      if (! reset)
      \x7b
        _context->sendMessageToReceiverV(HV_HASH_MIDIREALTIMEIN, 0,
          \"ff\", (float) MIDI_RT_CONTINUE);
      \x7d
    \x7d
  \x7d
  else if (this->wasPlaying)
  \x7b
    _context->sendMessageToReceiverV(HV_HASH_MIDIREALTIMEIN, 0,
      \"ff\", (float) MIDI_RT_STOP);
  \x7d
  this->wasPlaying = timePos.playing;\n
  // sending clock ticks
  if (timePos.playing && timePos.bbt.valid)
  \x7b
    float samplesPerBeat = 60 * getSampleRate() / timePos.bbt.beatsPerMinute;
    float samplesPerTick = samplesPerBeat / 24.0;\n
    /* get state */
    double nextClockTick = this->nextClockTick;
    double sampleAtCycleStart = this->sampleAtCycleStart;
    double sampleAtCycleEnd = sampleAtCycleStart + frames;\n
    while (nextClockTick < sampleAtCycleEnd) \x7b
      _context->sendMessageToReceiverV(HV_HASH_MIDIREALTIMEIN, 1000*(nextClockTick - sampleAtCycleStart)/getSampleRate(),
        \"ff\", (float) MIDI_RT_CLOCK);
      nextClockTick += samplesPerTick;
    \x7d\n
    /* save variables for next cycle */
    this->sampleAtCycleStart = sampleAtCycleEnd;
    this->nextClockTick = nextClockTick;
  \x7d\n
  // Midi events
  for (uint32_t i=0; i < midiEventCount; ++i)
  \x7b
    int status = midiEvents[i].data[0];
    int command = status & 0xF0;
    int channel = status & 0x0F;
    int data1   = midiEvents[i].data[1];
    int data2   = midiEvents[i].data[2];\n
    // raw [midiin] messages
    int dataSize = *(&midiEvents[i].data + 1) - midiEvents[i].data;\n
    for (int i = 0; i < dataSize; ++i) \x7b
      _context->sendMessageToReceiverV(HV_HASH_MIDIIN, 1000.0*timePos.frame/getSampleRate(), \"ff\",
        (float) midiEvents[i].data[i],
        (float) channel);
    \x7d\n
    if(mrtSet.find(status) != mrtSet.end())
    \x7b
      _context->sendMessageToReceiverV(HV_HASH_MIDIREALTIMEIN, 1000.0*timePos.frame/getSampleRate(),
        \"ff\", (float) status);
    \x7d\n
    // typical midi messages
    switch (command) \x7b",
     heard "80: \x7b  // note off" "NOTEIN" ["data1, // pitch", "0, // velocity"],
     heard "90: \x7b // note on" "NOTEIN" ["data1, // pitch", "data2, // velocity"],
     heard "B0: \x7b // control change" "CTLIN" ["data2, // value", "data1, // cc number"],
     heard "C0: \x7b // program change" "PGMIN" ["data1,"],
     heard "D0: \x7b // aftertouch" "TOUCHIN" ["data1,"],
     heard "E0: \x7b // pitch bend
        // combine 7bit lsb and msb into 32bit int
        hv_uint32_t value = (((hv_uint32_t) data2) << 7) | ((hv_uint32_t) data1);" "BENDIN" ["value,"],
     "      default: break;
    \x7d
  \x7d\n\x7d\n#endif\n\n#if DISTRHO_PLUGIN_WANT_MIDI_OUTPUT",
     rule, "// Midi Send handler",
     "\nvoid `class_name`::handleMidiSend(uint32_t sendHash, const HvMessage *m)\n\x7b
  MidiEvent midiSendEvent;
  midiSendEvent.frame = 0;
  midiSendEvent.dataExt = nullptr;\n
  switch(sendHash)\x7b
    case HV_HASH_NOTEOUT: // __hv_noteout
    \x7b
      uint8_t note = hv_msg_getFloat(m, 0);
      uint8_t velocity = hv_msg_getFloat(m, 1);
      uint8_t ch = hv_msg_getFloat(m, 2);
      ch %= 16;  // drop any pd \"ports\"\n
      midiSendEvent.size = 3;
      if (velocity > 0)\x7b
        midiSendEvent.data[0] = 0x90 | ch; // noteon
      \x7d else \x7b
        midiSendEvent.data[0] = 0x80 | ch; // noteoff
      \x7d
      midiSendEvent.data[1] = note;
      midiSendEvent.data[2] = velocity;\n
      writeMidiEvent(midiSendEvent);
      break;
    \x7d",
     sent "CTLOUT" "B0 | ch; // send CC" ["value", "cc"] ["cc", "value"],
     sent "PGMOUT" "C0 | ch; // send Program Change" ["pgm"] ["pgm"],
     sent "TOUCHOUT" "D0 | ch; // send Touch" ["value"] ["value"],
     "    case HV_HASH_BENDOUT:
    \x7b
      uint16_t value = hv_msg_getFloat(m, 0);
      uint8_t lsb  = value & 0x7F;
      uint8_t msb  = (value >> 7) & 0x7F;
      uint8_t ch = hv_msg_getFloat(m, 1);
      ch %= 16;\n
      midiSendEvent.size = 3;
      midiSendEvent.data[0] = 0xE0 | ch; // send Bend
      midiSendEvent.data[1] = lsb;
      midiSendEvent.data[2] = msb;\n
      writeMidiEvent(midiSendEvent);
      break;
    \x7d
    case HV_HASH_MIDIOUT: // __hv_midiout
    \x7b
      const uint8_t numElements = m->numElements;
      if (numElements <=4 )
      \x7b
        for (int i = 0; i < numElements; ++i)
        \x7b
          midiSendEvent.data[i] = hv_msg_getFloat(m, i);
        \x7d
      \x7d
      else
      \x7b
        printf(\"> we do not support sysex yet \\n\");
        break;
      \x7d\n
      // unsigned char* rawData = new unsigned char;
      // for (int i = 0; i < numElements; ++i) \x7b
      //   rawData[i] = (uint8_t) hv_msg_getFloat(m, i);
      //   printf(\"> data: %d \\n\", rawData[i]);
      // \x7d\n
      midiSendEvent.size = numElements;
      // midiSendEvent.dataExt = (const uint8_t *) rawData;\n
      writeMidiEvent(midiSendEvent);
      break;
    \x7d
    default:
      break;
  \x7d\n\x7d\n#endif\n", rule,
     "// DPF Plugin run() loop\n\n#if DISTRHO_PLUGIN_WANT_MIDI_INPUT",
     "void `class_name`::run(const float** inputs, float** outputs, uint32_t frames, const MidiEvent* midiEvents, uint32_t midiEventCount)",
     "\x7b
  handleMidiInput(frames, midiEvents, midiEventCount);\n#else",
     "void `class_name`::run(const float** inputs, float** outputs, uint32_t frames)\n\x7b\n#endif
  _context->process((float**)inputs, outputs, frames);\n\x7d\n",
     rule, "// Callbacks\n",
     "void `class_name`::sampleRateChanged(double newSampleRate)\n\x7b
  hv_`name`_free(_context);"],
   .text context, renewed,
   .text ["\n\x7d\n\n", rule ++ "----",
     "/* Plugin entry point, called by DPF to create a new plugin instance. */\n",
     "Plugin* createPlugin()\n\x7b
    return new `class_name`();\n\x7d\n",
     rule ++ "----\n",
     "END_NAMESPACE_DISTRHO"]]

end PatchCompiler.Sheet
